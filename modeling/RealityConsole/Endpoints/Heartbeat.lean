import Mathlib.Data.List.ReduceOption
import RealityConsole.Endpoints.Verification

/-!
# A heartbeat replaces the candidates of its node

When a new heartbeat is taken in, and what the candidates of its node are then. New candidates are
inserted last; so one that comes back while another still holds its address is refused.
-/

namespace RealityConsole.Endpoints

open Framework Protocol Controller

variable {s s' : EndpointStore} {w : World} {node : NodeId} {now : Nat}
  {endpoint : EndpointId} {key : NodeId × EndpointId} {row : CandidateRow}
  {verification : Verification} {attempt : Option ProbeAttempt} {status : NodeEndpointStatus}
  {heartbeat : EndpointHeartbeat} {record : NodeRecord}
  {entry : (NodeId × EndpointId) × CandidateRow}

/-! ### The status of one candidate -/

/-- The time that `timestamp` can express. -/
def InCalendar (time : Nat) : Prop := time ≤ 253402300799

instance : DecidablePred InCalendar := fun _ => inferInstanceAs (Decidable (_ ≤ _))

theorem timestamp_ok {value time : Nat} :
    timestamp value = .ok time ↔ InCalendar value ∧ time = value := by
  unfold timestamp InCalendar
  split
  · simp_all [eq_comm]
  · simp_all

theorem checkedAt_ok {value : Nat} {time : Option Nat} :
    EndpointStore.checkedAt value = .ok time ↔ InCalendar value ∧ time = some value := by
  unfold EndpointStore.checkedAt
  simp only [except_map_ok, mapError_ok, timestamp_ok]
  constructor
  · rintro ⟨_, ⟨hvl, rfl⟩, rfl⟩
    exact ⟨hvl, rfl⟩
  · rintro ⟨hvl, rfl⟩
    exact ⟨value, ⟨hvl, rfl⟩, rfl⟩

/-- The time of a TCP attempt that finished since the candidate was announced. -/
def attemptTime (row : CandidateRow) (attempt : ProbeAttempt) : Option Nat :=
  if row.verificationGeneration ≤ attempt.candidateGeneration then
    match attempt.status with
    | .succeeded completedAt _ _ | .failed completedAt _ => some completedAt
    | _ => none
  else none

def checkTime (row : CandidateRow) (attempt : Option ProbeAttempt) (now : Nat) :
    Verification → Option Nat
  | .verified lastSuccessAt _ expiresAt =>
    if now < expiresAt then some lastSuccessAt else attempt.bind (attemptTime row)
  | _ => attempt.bind (attemptTime row)

/-- Every failure code is a text that the status may carry. -/
theorem validateErrorCode_asStr (code : ProbeErrorCode) :
    NodeEndpointStatus.validateErrorCode (some code.asStr) = .ok () := by
  cases code with
  | tcp code => cases code <;> decide
  | protocol code => cases code <;> decide

structure Shows (endpoint : EndpointId) (time : Option Nat)
    (result : Except EndpointError NodeEndpointStatus) : Prop where
  succeeds : (∃ status, result = .ok status) ↔ ∀ t, time = some t → InCalendar t
  valid : ∀ status, result = .ok status →
    status.endpointId = endpoint ∧ status.validate = .ok ()

theorem shows_unchecked {readiness : EndpointReadiness}
    (hval : (⟨endpoint, readiness, none, none⟩ : NodeEndpointStatus).validate = .ok ()) :
    Shows endpoint none (.ok ⟨endpoint, readiness, none, none⟩) := by
  refine ⟨by simp, fun status h => ?_⟩
  cases h
  exact ⟨rfl, hval⟩

theorem shows_checkedAt {value : Nat} {readiness : EndpointReadiness} {code : Option String}
    (hval : (⟨endpoint, readiness, some value, code⟩ : NodeEndpointStatus).validate = .ok ()) :
    Shows endpoint (some value)
      ((EndpointStore.checkedAt value).map fun time => ⟨endpoint, readiness, time, code⟩) := by
  constructor
  · simp only [except_map_ok, checkedAt_ok]
    constructor
    · rintro ⟨_, _, ⟨hvl, -⟩, -⟩ t ht
      cases ht
      exact hvl
    · intro h
      exact ⟨_, _, ⟨h value rfl, rfl⟩, rfl⟩
  · intro status h
    obtain ⟨time, htime, rfl⟩ := except_map_ok.1 h
    obtain ⟨-, rfl⟩ := checkedAt_ok.1 htime
    exact ⟨rfl, hval⟩

theorem shows_attemptStatus : Shows endpoint (attempt.bind (attemptTime row))
    (EndpointStore.attemptStatus endpoint row now attempt) := by
  cases attempt with
  | none => exact shows_unchecked rfl
  | some attempt =>
    show Shows endpoint (attemptTime row attempt) _
    unfold attemptTime EndpointStore.attemptStatus
    cases hstat : attempt.status with
    | claimed =>
      simp only [hstat, ite_self]
      split
      · exact shows_unchecked rfl
      · exact shows_unchecked rfl
    | succeeded completedAt resolved latency =>
      simp only [hstat]
      split
      · apply shows_checkedAt
        rfl
      · exact shows_unchecked rfl
    | failed completedAt code =>
      simp only [hstat]
      split
      · exact shows_checkedAt (validateErrorCode_asStr code)
      · exact shows_unchecked rfl
    | cancelled completedAt =>
      simp only [hstat, ite_self]
      exact shows_unchecked rfl
    | expired completedAt =>
      simp only [hstat, ite_self]
      exact shows_unchecked rfl

theorem shows_decodeNodeEndpointStatus (h : verification ≠ .withdrawn) :
    Shows endpoint (checkTime row attempt now verification)
      (EndpointStore.decodeNodeEndpointStatus endpoint row verification attempt now) := by
  cases verification with
  | withdrawn => exact absurd rfl h
  | verified lastSuccessAt latency expiresAt =>
    unfold checkTime EndpointStore.decodeNodeEndpointStatus
    simp only
    split
    · apply shows_checkedAt
      rfl
    · exact shows_attemptStatus
  | pending => exact shows_attemptStatus
  | failed => exact shows_attemptStatus

/-! ### The answer -/

theorem mem_currentCandidates (h : s.candidates.Keyed) : entry ∈ s.currentCandidates node ↔
    s.candidates.find entry.1 = some entry.2 ∧ entry.1.1 = node ∧ entry.2.withdrawnAt = none := by
  unfold EndpointStore.currentCandidates
  rw [h.find_eq_some_iff]
  simp

theorem nodup_currentCandidates (h : s.candidates.Keyed) :
    ((s.currentCandidates node).map (·.1.2)).Nodup := by
  have hnode : ∀ entry ∈ s.currentCandidates node, entry.1.1 = node :=
    fun entry hent => ((mem_currentCandidates h).mp hent).2.1
  have hkeys : ((s.currentCandidates node).map (·.1)).Nodup :=
    List.Nodup.sublist (List.filter_sublist.map _) h
  rw [List.nodup_iff_pairwise_ne, List.pairwise_map] at hkeys ⊢
  refine hkeys.imp_of_mem fun ha hb hne hid => hne ?_
  exact Prod.ext ((hnode _ ha).trans (hnode _ hb).symm) hid

theorem statuses_of_candidates {entries : List ((NodeId × EndpointId) × CandidateRow)}
    {stats : List (Option NodeEndpointStatus)}
    (hverifiable : ∀ entry ∈ entries, s.verifiable entry.1)
    (h : List.Forall₂ (fun entry status => s.endpointStatus now entry = .ok status) entries
      stats) : stats.reduceOption.map (·.endpointId) = entries.map (·.1.2) ∧
      ∀ status ∈ stats.reduceOption, status.validate = .ok () := by
  induction h with
  | nil => exact ⟨rfl, fun _ hmem => by cases hmem⟩
  | @cons entry status entries stats hstat _ ih =>
    obtain ⟨hent, hrest⟩ := List.forall_mem_cons.1 hverifiable
    obtain ⟨hids, hval⟩ := ih hrest
    obtain ⟨v, hv, hcur⟩ := (Option.any_eq_true _ _).mp hent
    unfold EndpointStore.endpointStatus at hstat
    rw [hv] at hstat
    obtain ⟨shown, hshown, rfl⟩ := except_map_ok.1 hstat
    obtain ⟨hid, hshownValid⟩ :=
      (shows_decodeNodeEndpointStatus (of_decide_eq_true hcur)).valid shown hshown
    rw [List.reduceOption_cons_of_some]
    refine ⟨?_, List.forall_mem_cons.2 ⟨hshownValid, hval⟩⟩
    rw [List.map_cons, List.map_cons, hid, hids]

theorem validate_sorted {answer : NodeHeartbeatStatus} {statuses : List NodeEndpointStatus}
    (hsort : answer.endpoints = statuses.insertionSort fun a b => a.endpointId ≤ b.endpointId)
    (hgen : answer.heartbeatGeneration ≠ 0) (hcount : statuses.length ≤ 16)
    (hids : (statuses.map (·.endpointId)).Nodup)
    (hval : ∀ status ∈ statuses, status.validate = .ok ()) : answer.validate = .ok () := by
  let order := fun a b : NodeEndpointStatus => (a.endpointId : Nat) ≤ b.endpointId
  have hperm : (statuses.insertionSort order).Perm statuses :=
    List.perm_insertionSort order statuses
  have hordered : (statuses.insertionSort order).Pairwise order := by
    have : Std.Total order := ⟨fun a b => Nat.le_total a.endpointId b.endpointId⟩
    have : IsTrans _ order := ⟨fun a b c => Nat.le_trans⟩
    exact List.pairwise_insertionSort order statuses
  have hdist : (statuses.insertionSort order).Pairwise fun a b => a.endpointId ≠ b.endpointId :=
    List.pairwise_map.1 ((hperm.map NodeEndpointStatus.endpointId).nodup_iff.2 hids)
  have hchain : ((statuses.insertionSort order).map (·.endpointId)).IsChain (· < ·) := by
    apply List.Pairwise.isChain
    rw [List.pairwise_map]
    exact (hordered.and hdist).imp fun h => Nat.lt_of_le_of_ne h.1 h.2
  unfold NodeHeartbeatStatus.validate
  simp only [check_ok, refuse_ok, NodeHeartbeatStatus.validateEndpoints_ok, not_not]
  refine ⟨hgen, ?_, ?_, ?_⟩
  · rw [hsort, List.length_insertionSort]
    exact Nat.not_lt.2 hcount
  · rw [hsort]
    exact hchain
  · rw [hsort]
    exact fun status hmem => hval status (hperm.mem_iff.1 hmem)

def ChecksInCalendar (s : EndpointStore) (node : NodeId) (now : Nat) : Prop :=
  ∀ endpoint row v, s.candidates.find (node, endpoint) = some row → row.withdrawnAt = none →
    s.verifications.find (node, endpoint) = some v →
      ∀ time, checkTime row (s.latestAttempt node endpoint .tcp 0) now v = some time →
        InCalendar time

theorem exists_answer_iff {pk : PublicKey} {generation : Nat} (hkeyed : s.candidates.Keyed)
    (hverifiable : ∀ entry ∈ s.currentCandidates node, s.verifiable entry.1)
    (hcount : (s.currentCandidates node).length ≤ 16) (hgen : generation ≠ 0) :
    (∃ status, s.buildNodeHeartbeatStatus pk node generation now = .ok status) ↔
      InCalendar now ∧ ChecksInCalendar s node now := by
  have heach : (∃ stats, (s.currentCandidates node).mapM (s.endpointStatus now) = .ok stats) ↔
      ChecksInCalendar s node now := by
    rw [exists_mapM_ok]
    constructor
    · intro hall endpoint row v hrow hcur hv
      have hent : ((node, endpoint), row) ∈ s.currentCandidates node :=
        (mem_currentCandidates hkeyed).mpr ⟨hrow, rfl, hcur⟩
      obtain ⟨v', hv', hnot⟩ := (Option.any_eq_true _ _).mp (hverifiable _ hent)
      obtain rfl := Option.mem_unique hv hv'
      obtain ⟨status, hstat⟩ := hall _ hent
      unfold EndpointStore.endpointStatus at hstat
      rw [hv] at hstat
      obtain ⟨shown, hshown, -⟩ := except_map_ok.1 hstat
      exact (shows_decodeNodeEndpointStatus (of_decide_eq_true hnot)).succeeds.1 ⟨shown, hshown⟩
    · rintro hall ⟨⟨n, endpoint⟩, row⟩ hent
      obtain ⟨v, hv, hnot⟩ := (Option.any_eq_true _ _).mp (hverifiable _ hent)
      obtain ⟨hrow, hn, hcur⟩ := (mem_currentCandidates hkeyed).mp hent
      obtain rfl : n = node := hn
      have hshows : Shows endpoint _ (EndpointStore.decodeNodeEndpointStatus endpoint row v
          (s.latestAttempt n endpoint .tcp 0) now) :=
        shows_decodeNodeEndpointStatus (of_decide_eq_true hnot)
      obtain ⟨shown, hshown⟩ := hshows.succeeds.2 (hall endpoint row v hrow hcur hv)
      refine ⟨some shown, ?_⟩
      unfold EndpointStore.endpointStatus
      rw [hv]
      exact except_map_ok.2 ⟨shown, hshown, rfl⟩
  constructor
  · rintro ⟨status, h⟩
    obtain ⟨stats, hstatuses, h⟩ := bind_ok.1 h
    obtain ⟨time, htime, -⟩ := bind_ok.1 h
    exact ⟨(timestamp_ok.1 (mapError_ok.1 htime)).1, heach.1 ⟨stats, hstatuses⟩⟩
  · rintro ⟨hnow, hcheck⟩
    obtain ⟨stats, hstatuses⟩ := heach.2 hcheck
    obtain ⟨hids, hval⟩ := statuses_of_candidates hverifiable (mapM_ok.1 hstatuses)
    have htime : (timestamp now).mapError (fun _ => EndpointError.timestampComponent) = .ok now :=
      mapError_ok.2 (timestamp_ok.2 ⟨hnow, rfl⟩)
    unfold EndpointStore.buildNodeHeartbeatStatus
    rw [hstatuses, ok_bind, htime, ok_bind]
    refine ⟨_, check_ok.2 ⟨mapError_ok.2 (validate_sorted rfl hgen ?_ ?_ hval), rfl⟩⟩
    · rw [← List.length_map (·.endpointId), hids, List.length_map]
      exact hcount
    · rw [hids]
      exact nodup_currentCandidates hkeyed

/-! ### The candidates after a heartbeat -/

structure Replaced (s s' : EndpointStore) (node : NodeId) (heartbeat : EndpointHeartbeat) :
    Prop where
  /-- Exactly the reported candidates are current. -/
  current : ∀ endpoint,
    (∃ row, s'.candidates.find (node, endpoint) = some row ∧ row.withdrawnAt = none) ↔
      endpoint ∈ heartbeat.endpoints.map (·.endpointId)
  /-- They have the fields of the report. -/
  reported : ∀ c ∈ heartbeat.endpoints, ∃ row,
    s'.candidates.find (node, c.endpointId) = some row ∧ row.unchanged c = true
  /-- A candidate that continues keeps its verification. -/
  continuing : ∀ c ∈ heartbeat.endpoints, ∀ row,
    s.candidates.find (node, c.endpointId) = some row → row.withdrawnAt = none →
      s'.verifications.find (node, c.endpointId) = s.verifications.find (node, c.endpointId)
  /-- One that is new, or that had been withdrawn, waits for its verification. -/
  announced : ∀ c ∈ heartbeat.endpoints,
    s.candidates.find (node, c.endpointId) = none ∨ s.isWithdrawn (node, c.endpointId) = true →
      s'.verifications.find (node, c.endpointId) = some .pending
  /-- A verification is withdrawn exactly if its candidate is. -/
  withdrawn : ∀ key row, s'.candidates.find key = some row →
    (s'.verifications.find key = some .withdrawn ↔ row.withdrawnAt.isSome = true)

/-- What the report and the tables must agree on. -/
structure Compatible (s : EndpointStore) (node : NodeId) (heartbeat : EndpointHeartbeat)
    (now : Nat) : Prop where
  /-- No current candidate has the address of one that comes back. -/
  free : ∀ c ∈ heartbeat.endpoints, s.isWithdrawn (node, c.endpointId) = true →
    s.addressTaken node c.endpointId c.addressKey = false
  /-- The open attempts for a candidate that comes back have started by now. -/
  started : ∀ c ∈ heartbeat.endpoints, s.isWithdrawn (node, c.endpointId) = true →
    ∀ a ∈ s.claimedAttempts node c.endpointId, a.startedAt ≤ now
  /-- A new candidate expires in a later second than it was observed. -/
  seconds : ∀ c ∈ heartbeat.endpoints, s.candidates.find (node, c.endpointId) = none →
    ∀ expiry, c.expiresAt = some expiry → unixTimestamp c.observedAt < unixTimestamp expiry
  clock : InCalendar now
  /-- The check times of the candidates that continue are in the calendar. -/
  checks : ∀ c ∈ heartbeat.endpoints, ∀ row v,
    s.candidates.find (node, c.endpointId) = some row → row.withdrawnAt = none →
      s.verifications.find (node, c.endpointId) = some v →
        ∀ time, checkTime row (s.latestAttempt node c.endpointId .tcp 0) now v = some time →
          InCalendar time

theorem unchanged_inserted (c : EndpointCandidate) (generation : Nat) :
    (CandidateRow.inserted c generation now).unchanged c := by
  simp [CandidateRow.unchanged, CandidateRow.inserted]

theorem isWithdrawn_iff (h : s.candidates.find key = some row) :
    s.isWithdrawn key = true ↔ row.withdrawnAt.isSome := by
  simp [EndpointStore.isWithdrawn, h]

section Accepted

variable (hinv : Inv s) (haccepts : Accepts s node heartbeat record)
  (hupdated : Updated (reportedStore s node heartbeat record now) s' node heartbeat.endpoints
    heartbeat.heartbeatGeneration now)

include hinv haccepts hupdated in
theorem replaced_of_updated : Replaced s s' node heartbeat := by
  refine ⟨?_, ?_, ?_, ?_, ?_⟩
  · intro endpoint
    constructor
    · rintro ⟨row', hrow', hcur⟩
      by_contra hnot
      obtain ⟨row, -, rfl⟩ :=
        Option.map_eq_some_iff.1 ((hupdated.dropped endpoint hnot).1.symm.trans hrow')
      have hsome : (dropRow now row).withdrawnAt.isSome = true := isSome_withdrawnAt_dropRow
      rw [hcur] at hsome
      cases hsome
    · intro hmem
      obtain ⟨c, hc, rfl⟩ := List.mem_map.1 hmem
      cases hold : s.candidates.find (node, c.endpointId) with
      | none => exact ⟨_, (hupdated.new c hc hold).1, rfl⟩
      | some row => exact ⟨_, (hupdated.known c hc row hold).2.1, rfl⟩
  · intro c hc
    cases hold : s.candidates.find (node, c.endpointId) with
    | none => exact ⟨_, (hupdated.new c hc hold).1, unchanged_inserted c _⟩
    | some row =>
      obtain ⟨hunch, hrow, -⟩ := hupdated.known c hc row hold
      exact ⟨_, hrow, hunch⟩
  · intro c hc row hold hcur
    rw [(hupdated.known c hc row hold).2.2, hcur]
    show (s.verifications.find (node, c.endpointId)).map _ = _
    simp
  · rintro c hc (hnone | hwd)
    · exact (hupdated.new c hc hnone).2
    · obtain ⟨row, hold, hsome⟩ := (Option.any_eq_true _ _).mp hwd
      have hv : s.verifications.find (node, c.endpointId) = some .withdrawn :=
        (hinv.rows _ row hold).withdrawn.2 hsome
      rw [(hupdated.known c hc row hold).2.2]
      show (s.verifications.find (node, c.endpointId)).map _ = _
      rw [hv]
      simp [hsome]
  · intro key row hrow
    exact ((inv_reported hinv haccepts hupdated).rows key row hrow).withdrawn

include hupdated in
theorem latestAttempt_of_continuing {endpoint : EndpointId}
    (hold : s.candidates.find (node, endpoint) = some row) (hcur : row.withdrawnAt = none) :
    s'.latestAttempt node endpoint .tcp 0 = s.latestAttempt node endpoint .tcp 0 := by
  let cancel := cancelAttempt (reportedStore s node heartbeat record now) node
    (heartbeat.endpoints.map (·.endpointId)) now
  let wanted := fun attempt : ProbeAttempt => attempt.isOf node endpoint && attempt.phase = .tcp
    && 0 ≤ attempt.candidateGeneration
  show s'.attempts.find? wanted = s.attempts.find? wanted
  have hsame : wanted ∘ cancel = wanted := by
    funext a
    have hkept : Kept a (cancel a) := kept_ite
    show wanted (cancel a) = wanted a
    rw [hkept.eq]
    rfl
  have hatt : s'.attempts = s.attempts.map cancel := hupdated.attempts
  rw [hatt, List.find?_map, hsame]
  cases hfind : s.attempts.find? wanted with
  | none => rfl
  | some a =>
    have hwanted : wanted a = true := List.find?_some hfind
    simp only [wanted, Bool.and_eq_true, isOf_iff] at hwanted
    obtain ⟨⟨⟨hnode, hendp⟩, -⟩, -⟩ := hwanted
    have hnot : ¬ Reannounced (reportedStore s node heartbeat record now) node
        (heartbeat.endpoints.map (·.endpointId)) (a.nodeId, a.endpointId) := by
      rintro ⟨-, -, hwd⟩
      rw [hnode, hendp] at hwd
      have hsome := (isWithdrawn_iff (s := reportedStore s node heartbeat record now) hold).mp hwd
      rw [hcur] at hsome
      cases hsome
    exact congrArg some (if_neg hnot)

include hinv haccepts hupdated in
/-- A candidate that has just been announced has no check to show. -/
theorem attemptTime_of_announced {endpoint : EndpointId}
    (hrow : row.verificationGeneration = heartbeat.heartbeatGeneration) :
    (s'.latestAttempt node endpoint .tcp 0).bind (attemptTime row) = none := by
  cases hfind : s'.latestAttempt node endpoint .tcp 0 with
  | none => rfl
  | some a' =>
    have hwanted := List.find?_some hfind
    simp only [Bool.and_eq_true, isOf_iff] at hwanted
    have hmem := List.mem_of_find?_eq_some hfind
    rw [hupdated.attempts] at hmem
    obtain ⟨a, ha, rfl⟩ := List.mem_map.1 hmem
    -- every attempt was made for an earlier report
    obtain ⟨stored, hsto, hle⟩ :=
      hinv.attempts_grow (attemptsGrow_map (f := cancelAttempt _ _ _ _) fun _ => kept_ite) hmem
    rw [hwanted.1.1.1] at hsto
    obtain rfl := Option.mem_unique haccepts.found hsto
    have hlt := lt_of_le_of_lt hle haccepts.newer
    exact if_neg (Nat.not_le.2 (hrow ▸ hlt))

theorem checkTime_congr {row' : CandidateRow}
    (h : row'.verificationGeneration = row.verificationGeneration) :
    checkTime row' attempt now verification = checkTime row attempt now verification := by
  have htime : attemptTime row' = attemptTime row := by
    funext a
    unfold attemptTime
    rw [h]
  cases verification <;> simp only [checkTime, htime]

include hinv haccepts hupdated in
theorem checksInCalendar_iff : ChecksInCalendar s' node now ↔ ∀ c ∈ heartbeat.endpoints, ∀ row v,
      s.candidates.find (node, c.endpointId) = some row → row.withdrawnAt = none →
        s.verifications.find (node, c.endpointId) = some v →
          ∀ time, checkTime row (s.latestAttempt node c.endpointId .tcp 0) now v = some time →
            InCalendar time := by
  have hrep := replaced_of_updated hinv haccepts hupdated
  have hrefreshed : ∀ {row : CandidateRow}, row.withdrawnAt = none →
      (row.refreshed heartbeat.heartbeatGeneration).verificationGeneration
        = row.verificationGeneration := fun hcur => if_neg (by rw [hcur]; decide)
  constructor
  · intro h c hc row v hold hcur hv time htime
    refine h c.endpointId _ v (hupdated.known c hc row hold).2.1 rfl
      ((hrep.continuing c hc row hold hcur).trans hv) time ?_
    rw [latestAttempt_of_continuing hupdated hold hcur, checkTime_congr (hrefreshed hcur)]
    exact htime
  · intro h endpoint row' v hrow' hcur' hv time htime
    obtain ⟨c, hc, rfl⟩ := List.mem_map.1 ((hrep.current endpoint).mp ⟨row', hrow', hcur'⟩)
    have hann : row'.verificationGeneration = heartbeat.heartbeatGeneration →
        v = .pending → InCalendar time := by
      rintro hgen rfl
      cases (attemptTime_of_announced hinv haccepts hupdated hgen).symm.trans htime
    cases hold : s.candidates.find (node, c.endpointId) with
    | none =>
      obtain rfl := Option.some.inj ((hupdated.new c hc hold).1.symm.trans hrow')
      exact hann rfl (Option.some.inj (hv.symm.trans (hrep.announced c hc (.inl hold))))
    | some row =>
      obtain rfl := Option.some.inj ((hupdated.known c hc row hold).2.1.symm.trans hrow')
      cases hwd : row.withdrawnAt with
      | none =>
        rw [latestAttempt_of_continuing hupdated hold hwd,
          checkTime_congr (hrefreshed hwd)] at htime
        exact h c hc row v hold hwd ((hrep.continuing c hc row hold hwd).symm.trans hv) time htime
      | some withdrawnAt =>
        have hsome : row.withdrawnAt.isSome = true := by rw [hwd]; rfl
        exact hann (if_pos hsome) (Option.some.inj (hv.symm.trans
          (hrep.announced c hc (.inr ((isWithdrawn_iff hold).mpr hsome)))))

/-! ### Success -/

theorem recordHeartbeat_ok {pk : PublicKey} {answer : NodeHeartbeatStatus}
    (h : Accepts s node heartbeat record) :
    s.recordHeartbeat pk node heartbeat now = .ok (s', answer) ↔
      (reportedStore s node heartbeat record now).recordEndpointCandidates node
        heartbeat.endpoints heartbeat.heartbeatGeneration now = .ok s' ∧
      s'.buildNodeHeartbeatStatus pk node heartbeat.heartbeatGeneration now
        = .ok answer := by
  have hne : ¬ heartbeat.heartbeatGeneration = record.lastHeartbeatGeneration :=
    Nat.ne_of_gt h.newer
  have hrec : s.recordHeartbeat pk node heartbeat now
      = s.recordNewHeartbeat pk node heartbeat now := by
    unfold EndpointStore.recordHeartbeat
    rw [h.valid, h.found]
    simp [Except.mapError, required, refuseWhen, h.mayReport, Nat.not_lt.2 h.newer.le, hne]
  rw [hrec]
  unfold EndpointStore.recordNewHeartbeat
  rw [recordHeartbeat_policy h]
  show (EndpointStore.recordEndpointCandidates _ _ _ _ _ >>= _) = _ ↔ _
  simp only [bind_ok, pure, Except.pure, Except.ok.injEq, Prod.mk.injEq]
  constructor
  · rintro ⟨recorded, hrecd, status, hstat, rfl, rfl⟩
    exact ⟨hrecd, hstat⟩
  · rintro ⟨hrecd, hstat⟩
    exact ⟨s', hrecd, answer, hstat, rfl, rfl⟩

theorem exists_update_iff (now : Nat) (hinv : Inv s) (haccepts : Accepts s node heartbeat record)
    (hports : ∀ c ∈ heartbeat.endpoints, c.mode = .direct →
      s.policy.publicPortOf node c.appliedRevision = some c.port)
    (hunch : ∀ c ∈ heartbeat.endpoints, ∀ row,
      s.candidates.find (node, c.endpointId) = some row → row.unchanged c) :
    (∃ s', (reportedStore s node heartbeat record now).recordEndpointCandidates node
      heartbeat.endpoints heartbeat.heartbeatGeneration now = .ok s') ↔ ∀ c ∈ heartbeat.endpoints,
      (s.isWithdrawn (node, c.endpointId) →
        s.addressTaken node c.endpointId c.addressKey = false ∧
          ∀ a ∈ s.claimedAttempts node c.endpointId, a.startedAt ≤ now) ∧
      (s.candidates.find (node, c.endpointId) = none → ∀ expiry, c.expiresAt = some expiry →
          unixTimestamp c.observedAt < unixTimestamp expiry) := by
  have hval := EndpointHeartbeat.valid_of_validate haccepts.valid
  have hkeyed : (reportedStore s node heartbeat record now).candidates.Keyed := hinv.keyed
  have hnewer : Newer (reportedStore s node heartbeat record now) node
      heartbeat.heartbeatGeneration := hinv.newer haccepts.found haccepts.newer
  simp only [recordEndpointCandidates_ok hkeyed hval.ids hval.addresses]
  constructor
  · rintro ⟨-, hall, hnew, -⟩ c hc
    refine ⟨fun hwd => ⟨(hall c hc).free hwd, (hall c hc).started hwd⟩, ?_⟩
    intro hnone
    exact (hnew c (mem_newCandidates.2 ⟨hc, hnone⟩)).seconds
  · intro h
    have hall : ∀ c ∈ heartbeat.endpoints,
        Admissible (reportedStore s node heartbeat record now) node now c := by
      intro c hc
      exact ⟨hports c hc, hunch c hc, fun hwd => ((h c hc).1 hwd).1, fun hwd => ((h c hc).1 hwd).2⟩
    refine ⟨_, hall, ?_, rfl⟩
    intro c hc
    obtain ⟨hmem, hnone⟩ := mem_newCandidates.1 hc
    exact (insertable_withdrawnAll hnewer hkeyed hval.addresses hall hc).mpr
      ⟨hinv.document haccepts hmem, (h c hmem).2 hnone⟩

include hinv haccepts hupdated in
/-- After the update the node has no more current candidates than the report. -/
theorem answer_of_updated (pk : PublicKey) :
    (∃ answer, s'.buildNodeHeartbeatStatus pk node heartbeat.heartbeatGeneration now
      = .ok answer) ↔ InCalendar now ∧ ChecksInCalendar s' node now := by
  have hinv' := inv_reported hinv haccepts hupdated
  have hrep := replaced_of_updated hinv haccepts hupdated
  apply exists_answer_iff hinv'.keyed
  · intro entry hent
    obtain ⟨hrow, -, hcur⟩ := (mem_currentCandidates hinv'.keyed).mp hent
    have hpaired := hinv'.paired entry.1
    rw [hrow] at hpaired
    obtain ⟨v, hv⟩ := Option.isSome_iff_exists.1 hpaired
    refine (Option.any_eq_true _ _).mpr ⟨v, hv, decide_eq_true ?_⟩
    rintro rfl
    have hsome := (hinv'.rows _ _ hrow).withdrawn.1 hv
    rw [hcur] at hsome
    cases hsome
  · have hsubset : (s'.currentCandidates node).map (·.1.2)
        ⊆ heartbeat.endpoints.map (·.endpointId) := by
      intro endpoint hmem
      obtain ⟨⟨⟨n, e⟩, row⟩, hent, rfl⟩ := List.mem_map.1 hmem
      obtain ⟨hrow, hn, hcur⟩ := (mem_currentCandidates hinv'.keyed).mp hent
      obtain rfl : n = node := hn
      exact (hrep.current e).mp ⟨row, hrow, hcur⟩
    have hle := (List.subperm_of_subset (nodup_currentCandidates hinv'.keyed) hsubset).length_le
    rw [List.length_map, List.length_map] at hle
    exact hle.trans (EndpointHeartbeat.valid_of_validate haccepts.valid).count
  · exact Nat.ne_of_gt (Nat.lt_of_le_of_lt (Nat.zero_le _) haccepts.newer)

end Accepted

/-- In every reachable state, an accepted heartbeat whose ports and known identities are right
replaces the candidates of its node exactly if it is compatible with the tables. -/
theorem heartbeat_replaces_iff {identity : ControllerIdentity} {publicKey : PublicKey}
    (h : (system identity).Reachable w) (haccepts : Accepts w.store node heartbeat record)
    (hports : ∀ c ∈ heartbeat.endpoints, c.mode = .direct →
      w.store.policy.publicPortOf node c.appliedRevision = some c.port)
    (hunchanged : ∀ c ∈ heartbeat.endpoints, ∀ row,
      w.store.candidates.find (node, c.endpointId) = some row → row.unchanged c = true) :
    (∃ s' answer, w.store.recordHeartbeat publicKey node heartbeat now = .ok (s', answer) ∧
      Replaced w.store s' node heartbeat) ↔ Compatible w.store node heartbeat now := by
  have hinv := inv_of_run h
  have hupdate := exists_update_iff now hinv haccepts hports hunchanged
  constructor
  · rintro ⟨s', answer, hrecd, -⟩
    obtain ⟨hrecord, hanswer⟩ := (recordHeartbeat_ok haccepts).mp hrecd
    have hupdated := hinv.updated haccepts hrecord
    obtain ⟨hclock, hcheck⟩ := (answer_of_updated hinv haccepts hupdated publicKey).mp
      ⟨answer, hanswer⟩
    have hall := hupdate.1 ⟨s', hrecord⟩
    exact ⟨fun c hc hwd => ((hall c hc).1 hwd).1, fun c hc hwd => ((hall c hc).1 hwd).2, fun c hc =>
      (hall c hc).2, hclock, (checksInCalendar_iff hinv haccepts hupdated).mp hcheck⟩
  · intro hcompatible
    obtain ⟨s', hrecord⟩ := hupdate.2 fun c hc =>
      ⟨fun hwd => ⟨hcompatible.free c hc hwd, hcompatible.started c hc hwd⟩,
        hcompatible.seconds c hc⟩
    have hupdated := hinv.updated haccepts hrecord
    obtain ⟨answer, hanswer⟩ := (answer_of_updated hinv haccepts hupdated publicKey).mpr
      ⟨hcompatible.clock, (checksInCalendar_iff hinv haccepts hupdated).mpr hcompatible.checks⟩
    exact ⟨s', answer, (recordHeartbeat_ok haccepts).mpr ⟨hrecord, hanswer⟩,
      replaced_of_updated hinv haccepts hupdated⟩

/-! ### Two reports -/

/-- The conditions on a report that do not depend on what is current, for evaluation. -/
def isProper (s : EndpointStore) (node : NodeId) (heartbeat : EndpointHeartbeat) : Bool :=
  heartbeat.validate = .ok () &&
  (s.policy.nodes.find node).any (fun record => record.status.mayReport
    && record.lastHeartbeatGeneration < heartbeat.heartbeatGeneration
    && record.validateReportedProgress heartbeat.toNodeHeartbeat = .ok ()) &&
  heartbeat.endpoints.all fun c =>
    (c.mode ≠ .direct || s.policy.publicPortOf node c.appliedRevision = some c.port)
      && (s.candidates.find (node, c.endpointId)).all fun row => row.unchanged c

/-- The report is accepted, its ports are right and its known identities are unchanged. -/
structure Proper (s : EndpointStore) (node : NodeId) (heartbeat : EndpointHeartbeat)
    (record : NodeRecord) : Prop where
  accepts : Accepts s node heartbeat record
  ports : ∀ c ∈ heartbeat.endpoints, c.mode = .direct →
    s.policy.publicPortOf node c.appliedRevision = some c.port
  unchanged : ∀ c ∈ heartbeat.endpoints, ∀ row,
    s.candidates.find (node, c.endpointId) = some row → row.unchanged c = true

theorem proper_of_isProper (h : isProper s node heartbeat) :
    ∃ record, Proper s node heartbeat record := by
  obtain ⟨h, hall⟩ := Bool.and_eq_true_iff.1 h
  obtain ⟨hval, hrec⟩ := Bool.and_eq_true_iff.1 h
  obtain ⟨record, hfound, hrec⟩ := (Option.any_eq_true _ _).mp hrec
  simp only [Bool.and_eq_true, decide_eq_true_eq] at hrec hval
  obtain ⟨⟨hmay, hnewer⟩, hprog⟩ := hrec
  refine ⟨record, ⟨hval, hfound, hmay, hnewer, hprog⟩, ?_, ?_⟩
  · intro c hc hdirect
    have hport := (Bool.and_eq_true_iff.1 (List.all_eq_true.1 hall c hc)).1
    simpa [hdirect] using hport
  · intro c hc row hrow
    have hrows := (Bool.and_eq_true_iff.1 (List.all_eq_true.1 hall c hc)).2
    simpa [hrow] using hrows

/-- A second identity for an address, and then the first one again. -/
def returnRun : List Label :=
  [.recordHeartbeat 2 (plainHeartbeat 1 [plainCandidate 9]) 300,
    .recordHeartbeat 2 (plainHeartbeat 2 [plainCandidate 10]) 310]

/-- The report of the first identity is refused, although it withdraws the second. -/
theorem returning_candidate_refused : ∃ w record, (system Policy.plainIdentity).Reachable w ∧
    Proper w.store 2 (plainHeartbeat 3 [plainCandidate 9]) record ∧
    (w.store.recordHeartbeat 7 2 (plainHeartbeat 3 [plainCandidate 9]) 320).toOption.isNone := by
  obtain ⟨w, hrun, hproper, hrefused⟩ := Machine.run_of_exec
    (M := system Policy.plainIdentity)
    (fun _ _ => True)
    (fun w => isProper w.store 2 (plainHeartbeat 3 [plainCandidate 9]) = true ∧
      (w.store.recordHeartbeat 7 2 (plainHeartbeat 3 [plainCandidate 9]) 320).toOption.isNone)
    (joinRun ++ returnRun)
    ⟨1, 4, rfl⟩
    (by decide +kernel)
  obtain ⟨record, hrecord⟩ := proper_of_isProper hproper
  exact ⟨w, record, hrun, hrecord, hrefused⟩

def addressedCandidate (endpoint : EndpointId) (address : String) : EndpointCandidate :=
  { plainCandidate endpoint with address := address }

/-- Three candidates, of which the second report keeps two. -/
def replaceRun : List Label :=
  [.recordHeartbeat 2 (plainHeartbeat 1 [plainCandidate 9, addressedCandidate 10 "203.0.113.8",
      addressedCandidate 11 "203.0.113.9"]) 300,
    .recordHeartbeat 2
      (plainHeartbeat 2 [plainCandidate 9, addressedCandidate 10 "203.0.113.8"]) 310]

/-- One candidate is kept, the other dropped, and the one that was dropped before comes back. -/
def thirdReport : EndpointHeartbeat :=
  plainHeartbeat 3 [plainCandidate 9, addressedCandidate 11 "203.0.113.9"]

theorem third_report_replaces : ∃ w s' answer, (system Policy.plainIdentity).Reachable w ∧
    w.store.isWithdrawn (2, 9) = false ∧ w.store.isWithdrawn (2, 11) = true ∧
    (w.store.candidates.find (2, 10)).any (·.withdrawnAt.isNone) = true ∧
    w.store.recordHeartbeat 7 2 thirdReport 320 = .ok (s', answer) ∧
    Replaced w.store s' 2 thirdReport := by
  obtain ⟨w, hrun, hproper, hkept, hgone, hdropped, hfree, hattempts, hpending⟩ :=
    Machine.run_of_exec
      (M := system Policy.plainIdentity)
      (fun _ _ => True)
      (fun w => isProper w.store 2 thirdReport = true ∧
        w.store.isWithdrawn (2, 9) = false ∧ w.store.isWithdrawn (2, 11) = true ∧
        (w.store.candidates.find (2, 10)).any (·.withdrawnAt.isNone) = true ∧
        w.store.addressTaken 2 11 (addressedCandidate 11 "203.0.113.9").addressKey = false ∧
        w.store.attempts.isEmpty = true ∧ w.store.verifications.find (2, 9) = some .pending)
      (joinRun ++ replaceRun)
      ⟨1, 4, rfl⟩
      (by decide +kernel)
  obtain ⟨record, hrecord⟩ := proper_of_isProper hproper
  rw [List.isEmpty_iff] at hattempts
  have heach {P : EndpointCandidate → Prop} (hnine : P (plainCandidate 9))
      (heleven : P (addressedCandidate 11 "203.0.113.9")) : ∀ c ∈ thirdReport.endpoints, P c := by
    simpa [thirdReport, plainHeartbeat] using And.intro hnine heleven
  have hlatest (endpoint : EndpointId) : w.store.latestAttempt 2 endpoint .tcp 0 = none := by
    simp [EndpointStore.latestAttempt, hattempts]
  have hcompatible : Compatible w.store 2 thirdReport 320 := by
    refine ⟨heach (fun hwd => ?_) fun _ => hfree, fun c _ _ a ha => ?_,
      heach (fun _ expiry hexpiry => ?_) fun _ expiry hexpiry => ?_, by decide,
      heach (fun row v _ _ hver => ?_) fun row v hrow hcurrent => ?_⟩
    · cases hkept.symm.trans hwd
    · simp [EndpointStore.claimedAttempts, hattempts] at ha
    · cases hexpiry
    · cases hexpiry
    · obtain rfl := Option.mem_unique hpending hver
      rw [hlatest]
      intro time htime
      cases htime
    · have hsome := (isWithdrawn_iff hrow).1 hgone
      rw [hcurrent] at hsome
      cases hsome
  obtain ⟨s', answer, hrecorded, hreplaced⟩ :=
    (heartbeat_replaces_iff hrun hrecord.accepts hrecord.ports hrecord.unchanged).mpr hcompatible
  exact ⟨w, s', answer, hrun, hkept, hgone, hdropped, hrecorded, hreplaced⟩

end RealityConsole.Endpoints
