import RealityConsole.Endpoints.Update

/-!
# What a heartbeat does to the candidates

The second half of the candidate update, and the update as a whole: when it
succeeds, and what the row and the verification of every endpoint are afterwards.
A report is newer than every stored one, so the candidates that it names are the
only ones that stay current.
-/

namespace RealityConsole.Endpoints

open Framework Protocol Controller

variable {s s' : EndpointStore} {node : NodeId} {endpoint : EndpointId} {generation now : Nat}
  {c d : EndpointCandidate} {row : CandidateRow} {key : NodeId × EndpointId}
  {ids : List EndpointId} {endpoints new : List EndpointCandidate}

/-! ### Withdrawing the missing candidates -/

theorem find_withdrawMissing : (s.withdrawMissingCandidates node generation now).candidates.find key
      = (s.candidates.find key).map (EndpointStore.withdrawRow node generation now key) :=
  Table.find_update key (EndpointStore.withdrawRow node generation now) s.candidates

theorem keyed_withdrawMissing :
    (s.withdrawMissingCandidates node generation now).candidates.Keyed ↔ s.candidates.Keyed :=
  Table.keyed_update (f := EndpointStore.withdrawRow node generation now)

theorem verification_withdrawMissing :
    (s.withdrawMissingCandidates node generation now).verifications.find key =
    (s.verifications.find key).map fun v => if key.1 = node ∧
    (s.withdrawMissingCandidates node generation now).isWithdrawn key then .withdrawn else v := by
  exact Table.find_update key (fun key v => if key.1 = node ∧ EndpointStore.isWithdrawn
    { s with candidates := s.candidates.update (EndpointStore.withdrawRow node generation now) }
    key then .withdrawn else v) s.verifications

/-! ### Inserting the new candidates -/

/-- The table constraints let the candidate in. -/
structure Insertable (s : EndpointStore) (node : NodeId) (c : EndpointCandidate) : Prop where
  fresh : s.candidates.find (node, c.endpointId) = none
  /-- The row refers to a published revision. -/
  document : (s.policy.documents.find (node, c.appliedRevision)).isSome
  free : s.addressTaken node c.endpointId c.addressKey = false
  /-- The expiry is later than the observation in whole seconds too. -/
  seconds : ∀ expiry, c.expiresAt = some expiry →
    unixTimestamp c.observedAt < unixTimestamp expiry

def insertedOne (s : EndpointStore) (node : NodeId) (c : EndpointCandidate)
    (generation now : Nat) : EndpointStore :=
  { s with
    candidates := s.candidates.insert (node, c.endpointId) (CandidateRow.inserted c generation now)
    verifications := s.verifications.insert (node, c.endpointId) .pending }

theorem insertEndpointCandidate_ok : s.insertEndpointCandidate node c generation now = .ok s' ↔
      Insertable s node c ∧ s' = insertedOne s node c generation now := by
  unfold EndpointStore.insertEndpointCandidate
  simp only [check_ok, refuse_ok, pure, Except.pure, Except.ok.injEq]
  constructor
  · rintro ⟨hfresh, hdoc, hfree, hsecs, rfl⟩
    have hsome := Option.isSome_iff_ne_none.2 (mt Option.isNone_iff_eq_none.2 hdoc)
    refine ⟨⟨by simpa using hfresh, hsome, by simpa using hfree, ?_⟩, rfl⟩
    intro expiry hexp
    simpa [hexp] using hsecs
  · rintro ⟨⟨hfresh, hdoc, hfree, hsecs⟩, rfl⟩
    have hnotNone := mt Option.isNone_iff_eq_none.1 (Option.isSome_iff_ne_none.1 hdoc)
    refine ⟨by simp [hfresh], hnotNone, by simp [hfree], ?_, rfl⟩
    cases hexp : c.expiresAt with
    | none => simp
    | some expiry => simpa using hsecs expiry hexp

theorem insertable_insertedOne (hid : d.endpointId ≠ c.endpointId)
    (haddr : d.addressKey ≠ c.addressKey) :
    Insertable (insertedOne s node c generation now) node d ↔ Insertable s node d := by
  have hfind : (insertedOne s node c generation now).candidates.find (node, d.endpointId)
      = s.candidates.find (node, d.endpointId) := by
    refine (Table.find_insert _ _ _ _).trans (if_neg fun hkey => ?_)
    exact hid (Prod.mk.inj hkey).2
  have htaken : (insertedOne s node c generation now).addressTaken node d.endpointId d.addressKey
      = s.addressTaken node d.endpointId d.addressKey := by
    have hinsd : (CandidateRow.inserted c generation now).addressKey ≠ d.addressKey := haddr.symm
    simp [EndpointStore.addressTaken, insertedOne, Table.insert, hinsd]
  constructor
  · rintro ⟨hfresh, hdoc, hfree, hsecs⟩
    exact ⟨hfind ▸ hfresh, hdoc, htaken ▸ hfree, hsecs⟩
  · rintro ⟨hfresh, hdoc, hfree, hsecs⟩
    exact ⟨hfind.trans hfresh, hdoc, htaken.trans hfree, hsecs⟩

def insertedAll (s : EndpointStore) (node : NodeId) (generation now : Nat) :
    List EndpointCandidate → EndpointStore
  | [] => s
  | c :: rest => insertedAll (insertedOne s node c generation now) node generation now rest

theorem insertCandidates_ok (hids : (new.map (·.endpointId)).Nodup)
    (hads : (new.map (·.addressKey)).Nodup) : s.insertCandidates node generation now new = .ok s' ↔
    (∀ c ∈ new, Insertable s node c) ∧ s' = insertedAll s node generation now new := by
  induction new generalizing s with
  | nil =>
    simp only [EndpointStore.insertCandidates, insertedAll, Except.ok.injEq, List.not_mem_nil,
      false_imp_iff, implies_true, true_and]
    exact eq_comm
  | cons c rest ih =>
    obtain ⟨hcid, hrids⟩ := List.nodup_cons.1 hids
    obtain ⟨hcadr, hradr⟩ := List.nodup_cons.1 hads
    have hrest : (∀ d ∈ rest, Insertable (insertedOne s node c generation now) node d) ↔
        ∀ d ∈ rest, Insertable s node d := by
      refine forall₂_congr fun d hd => insertable_insertedOne ?_ ?_
      · exact fun h => hcid (List.mem_map.2 ⟨d, hd, h⟩)
      · exact fun h => hcadr (List.mem_map.2 ⟨d, hd, h⟩)
    show (s.insertEndpointCandidate node c generation now >>= fun s =>
      s.insertCandidates node generation now rest) = .ok s' ↔ _
    simp only [bind_ok, insertEndpointCandidate_ok, insertedAll, List.forall_mem_cons]
    constructor
    · rintro ⟨mid, ⟨hc, rfl⟩, hloop⟩
      obtain ⟨hall, rfl⟩ := (ih hrids hradr).mp hloop
      exact ⟨⟨hc, hrest.1 hall⟩, rfl⟩
    · rintro ⟨⟨hc, hall⟩, rfl⟩
      exact ⟨_, ⟨hc, rfl⟩, (ih hrids hradr).mpr ⟨hrest.2 hall, rfl⟩⟩

theorem insertedAll_policy : (insertedAll s node generation now new).policy = s.policy := by
  induction new generalizing s with
  | nil => rfl
  | cons c rest ih => exact ih

theorem insertedAll_hosts : (insertedAll s node generation now new).hosts = s.hosts := by
  induction new generalizing s with
  | nil => rfl
  | cons c rest ih => exact ih

theorem insertedAll_attempts : (insertedAll s node generation now new).attempts = s.attempts := by
  induction new generalizing s with
  | nil => rfl
  | cons c rest ih => exact ih

theorem find_insertedAll_of_notMem (hnot : ∀ c ∈ new, key ≠ (node, c.endpointId)) :
    (insertedAll s node generation now new).candidates.find key = s.candidates.find key ∧
    (insertedAll s node generation now new).verifications.find key = s.verifications.find key := by
  induction new generalizing s with
  | nil => exact ⟨rfl, rfl⟩
  | cons c rest ih =>
    obtain ⟨hc, hrest⟩ := List.forall_mem_cons.1 hnot
    obtain ⟨hrow, hvf⟩ := ih hrest (s := insertedOne s node c generation now)
    exact ⟨hrow.trans ((Table.find_insert _ _ _ _).trans (if_neg hc)),
      hvf.trans ((Table.find_insert _ _ _ _).trans (if_neg hc))⟩

theorem find_insertedAll_of_mem (hids : (new.map (·.endpointId)).Nodup) (hc : c ∈ new) :
    (insertedAll s node generation now new).candidates.find (node, c.endpointId)
        = some (CandidateRow.inserted c generation now) ∧
      (insertedAll s node generation now new).verifications.find (node, c.endpointId)
        = some .pending := by
  induction new generalizing s with
  | nil => cases hc
  | cons first rest ih =>
    obtain ⟨hfirst, hrids⟩ := List.nodup_cons.1 hids
    rcases List.mem_cons.1 hc with rfl | hrest
    · have hlat : ∀ d ∈ rest, (node, c.endpointId) ≠ (node, d.endpointId) := by
        intro d hd hkey
        exact hfirst (List.mem_map.2 ⟨d, hd, (Prod.mk.inj hkey).2.symm⟩)
      obtain ⟨hrow, hvf⟩ :=
        find_insertedAll_of_notMem hlat (s := insertedOne s node c generation now)
      exact ⟨hrow.trans ((Table.find_insert _ _ _ _).trans (if_pos rfl)),
        hvf.trans ((Table.find_insert _ _ _ _).trans (if_pos rfl))⟩
    · exact ih hrids hrest

theorem keyed_insertedAll (hids : (new.map (·.endpointId)).Nodup)
    (hfresh : ∀ c ∈ new, s.candidates.find (node, c.endpointId) = none)
    (h : s.candidates.Keyed) : (insertedAll s node generation now new).candidates.Keyed := by
  induction new generalizing s with
  | nil => exact h
  | cons c rest ih =>
    obtain ⟨hc, hrids⟩ := List.nodup_cons.1 hids
    obtain ⟨hcfresh, hrest⟩ := List.forall_mem_cons.1 hfresh
    apply ih hrids
    · intro d hd
      refine (Table.find_insert _ _ _ _).trans ((if_neg fun hkey => ?_).trans (hrest d hd))
      exact hc (List.mem_map.2 ⟨d, hd, (Prod.mk.inj hkey).2⟩)
    · exact Table.keyed_insert h hcfresh

/-! ### The whole update -/

/-- The tables between the two loops. -/
def withdrawnAll (s : EndpointStore) (node : NodeId) (ids : List EndpointId)
    (generation now : Nat) : EndpointStore :=
  (refreshedAll s node ids generation now).withdrawMissingCandidates node generation now

def updatedAll (s : EndpointStore) (node : NodeId) (endpoints : List EndpointCandidate)
    (generation now : Nat) : EndpointStore :=
  insertedAll (withdrawnAll s node (endpoints.map (·.endpointId)) generation now) node generation
    now (newCandidates s node endpoints)

theorem mem_newCandidates : c ∈ newCandidates s node endpoints ↔
    c ∈ endpoints ∧ s.candidates.find (node, c.endpointId) = none := by simp [newCandidates]

theorem nodup_newCandidates {α : Type} {f : EndpointCandidate → α} (h : (endpoints.map f).Nodup) :
    ((newCandidates s node endpoints).map f).Nodup :=
  h.sublist (List.filter_sublist.map f)

theorem recordEndpointCandidates_ok (hkeyed : s.candidates.Keyed)
    (hids : (endpoints.map (·.endpointId)).Nodup)
    (hads : (endpoints.map (·.addressKey)).Nodup) :
    s.recordEndpointCandidates node endpoints generation now = .ok s' ↔
      (∀ c ∈ endpoints, Admissible s node now c) ∧ (∀ c ∈ newCandidates s node endpoints,
          Insertable (withdrawnAll s node (endpoints.map (·.endpointId)) generation now) node c) ∧
        s' = updatedAll s node endpoints generation now := by
  have hins : ∀ mid : EndpointStore,
      mid.insertCandidates node generation now (newCandidates s node endpoints) = .ok s' ↔ _ :=
    fun mid => insertCandidates_ok (nodup_newCandidates hids) (nodup_newCandidates hads)
  constructor
  · intro h
    obtain ⟨⟨mid, new⟩, hloop, h⟩ := bind_ok.1 h
    obtain ⟨hall, rfl, rfl⟩ := (refreshCandidates_ok hkeyed hids hads).mp hloop
    exact ⟨hall, (hins _).mp h⟩
  · rintro ⟨hall, hnew, hs'⟩
    have hloop : s.refreshCandidates node generation now endpoints = .ok (_, _) :=
      (refreshCandidates_ok hkeyed hids hads).mpr ⟨hall, rfl, rfl⟩
    unfold EndpointStore.recordEndpointCandidates
    rw [hloop, ok_bind]
    exact (hins _).mpr ⟨hnew, hs'⟩

def Newer (s : EndpointStore) (node : NodeId) (generation : Nat) : Prop :=
  ∀ endpoint row, s.candidates.find (node, endpoint) = some row →
    row.lastReportGeneration < generation

/-- A candidate is withdrawn, unless it already is. -/
def dropRow (now : Nat) (row : CandidateRow) : CandidateRow :=
  if row.withdrawnAt.isNone then { row with withdrawnAt := some now } else row

theorem isSome_withdrawnAt_dropRow : (dropRow now row).withdrawnAt.isSome := by
  unfold dropRow
  cases hrow : row.withdrawnAt with
  | none => rfl
  | some time => simp [hrow]

section Between

variable (hnewer : Newer s node generation)

include hnewer

theorem find_withdrawnAll :
    (withdrawnAll s node ids generation now).candidates.find (node, endpoint)
    = (s.candidates.find (node, endpoint)).map fun row =>
      if endpoint ∈ ids then row.refreshed generation else dropRow now row := by
  unfold withdrawnAll
  rw [find_withdrawMissing, find_refreshedAll, Option.map_map]
  apply Option.map_congr
  intro row hrow
  have hold : row.lastReportGeneration < generation := hnewer endpoint row hrow
  by_cases hmem : endpoint ∈ ids
  · simp [refreshRow, hmem, EndpointStore.withdrawRow, CandidateRow.refreshed]
  · simp [refreshRow, hmem, EndpointStore.withdrawRow, dropRow, hold]

theorem isWithdrawn_withdrawnAll :
    (withdrawnAll s node ids generation now).isWithdrawn (node, endpoint)
      = (decide (endpoint ∉ ids) && (s.candidates.find (node, endpoint)).isSome) := by
  unfold EndpointStore.isWithdrawn
  rw [find_withdrawnAll hnewer]
  cases s.candidates.find (node, endpoint) with
  | none => simp
  | some row =>
    by_cases hmem : endpoint ∈ ids
    · simp [hmem]
    · simp [hmem, isSome_withdrawnAt_dropRow]

theorem verification_withdrawnAll :
    (withdrawnAll s node ids generation now).verifications.find (node, endpoint)
      = (s.verifications.find (node, endpoint)).map fun v =>
        if endpoint ∈ ids then restart s node ids (node, endpoint) v
        else if (s.candidates.find (node, endpoint)).isSome then .withdrawn else v := by
  have hwd : (withdrawnAll s node ids generation now).isWithdrawn (node, endpoint) = _ :=
    isWithdrawn_withdrawnAll hnewer
  unfold withdrawnAll at hwd ⊢
  rw [verification_withdrawMissing, hwd]
  show ((s.verifications.update (restart s node ids)).find (node, endpoint)).map _ = _
  rw [Table.find_update, Option.map_map]
  apply Option.map_congr
  intro v _
  by_cases hmem : endpoint ∈ ids
  · simp [hmem]
  · simp [hmem, restart, Reannounced]

/-- The address of a new candidate is free once the missing ones are withdrawn. -/
theorem insertable_withdrawnAll (hkeyed : s.candidates.Keyed)
    (hads : (endpoints.map (·.addressKey)).Nodup) (hall : ∀ c ∈ endpoints, Admissible s node now c)
    (hc : c ∈ newCandidates s node endpoints) :
    Insertable (withdrawnAll s node (endpoints.map (·.endpointId)) generation now) node c ↔
    (s.policy.documents.find (node, c.appliedRevision)).isSome ∧ ∀ expiry, c.expiresAt =
    some expiry → unixTimestamp c.observedAt < unixTimestamp expiry := by
  obtain ⟨hmem, hfresh⟩ := mem_newCandidates.1 hc
  have hkeyed' :
      (withdrawnAll s node (endpoints.map (·.endpointId)) generation now).candidates.Keyed :=
    keyed_withdrawMissing.2 (keyed_refreshedAll.2 hkeyed)
  constructor
  · rintro ⟨-, hdoc, -, hsecs⟩
    exact ⟨hdoc, hsecs⟩
  · rintro ⟨hdoc, hsecs⟩
    refine ⟨?_, hdoc, ?_, hsecs⟩
    · rw [find_withdrawnAll hnewer, hfresh]
      rfl
    · rw [not_addressTaken_iff hkeyed']
      intro other row' hoth hcur haddr
      rw [find_withdrawnAll hnewer] at hoth
      obtain ⟨row, hrow, rfl⟩ := Option.map_eq_some_iff.1 hoth
      by_cases hin : other ∈ endpoints.map (·.endpointId)
      · -- another reported candidate with the same address
        obtain ⟨d, hd, rfl⟩ := List.mem_map.1 hin
        rw [if_pos hin, addressKey_refreshed,
          addressKey_of_unchanged ((hall d hd).unchanged row hrow)] at haddr
        rw [List.inj_on_of_nodup_map hads hd hmem haddr]
      · rw [if_neg hin] at hcur
        have hsome : (dropRow now row).withdrawnAt.isSome = true := isSome_withdrawnAt_dropRow
        rw [hcur] at hsome
        cases hsome

end Between

structure Updated (s s' : EndpointStore) (node : NodeId) (endpoints : List EndpointCandidate)
    (generation now : Nat) : Prop where
  policy : s'.policy = s.policy
  hosts : s'.hosts = s.hosts
  attempts : s'.attempts
    = s.attempts.map (cancelAttempt s node (endpoints.map (·.endpointId)) now)
  keyed : s'.candidates.Keyed
  /-- The rows of other nodes stay. -/
  elsewhere : ∀ key, key.1 ≠ node → s'.candidates.find key = s.candidates.find key ∧
    s'.verifications.find key = s.verifications.find key
  /-- A new candidate is inserted. -/
  new : ∀ c ∈ endpoints, s.candidates.find (node, c.endpointId) = none →
    s'.candidates.find (node, c.endpointId) = some (CandidateRow.inserted c generation now) ∧
      s'.verifications.find (node, c.endpointId) = some .pending
  /-- A known one is refreshed. -/
  known : ∀ c ∈ endpoints, ∀ row, s.candidates.find (node, c.endpointId) = some row →
    row.unchanged c = true ∧
    s'.candidates.find (node, c.endpointId) = some (row.refreshed generation) ∧
      s'.verifications.find (node, c.endpointId)
        = (s.verifications.find (node, c.endpointId)).map fun v =>
          if row.withdrawnAt.isSome ∧ v = .withdrawn then .pending else v
  /-- All others are withdrawn. -/
  dropped : ∀ endpoint, endpoint ∉ endpoints.map (·.endpointId) →
    s'.candidates.find (node, endpoint) = (s.candidates.find (node, endpoint)).map (dropRow now) ∧
      s'.verifications.find (node, endpoint) = (s.verifications.find (node, endpoint)).map fun v =>
        if (s.candidates.find (node, endpoint)).isSome then .withdrawn else v

theorem withdrawnAll_elsewhere (hkey : key.1 ≠ node) :
    (withdrawnAll s node ids generation now).candidates.find key = s.candidates.find key ∧
    (withdrawnAll s node ids generation now).verifications.find key = s.verifications.find key := by
  constructor
  · unfold withdrawnAll
    rw [find_withdrawMissing, find_refreshedAll, Option.map_map]
    simp [Function.comp_def, refreshRow, EndpointStore.withdrawRow, hkey]
  · unfold withdrawnAll
    rw [verification_withdrawMissing]
    show ((s.verifications.update (restart s node ids)).find key).map _ = _
    rw [Table.find_update, Option.map_map]
    simp [Function.comp_def, restart, Reannounced, hkey]

theorem updated_updatedAll (hkeyed : s.candidates.Keyed) (hnewer : Newer s node generation)
    (hids : (endpoints.map (·.endpointId)).Nodup)
    (hall : ∀ c ∈ endpoints, Admissible s node now c) :
    Updated s (updatedAll s node endpoints generation now) node endpoints generation now := by
  have hold : ∀ {key}, (∀ c ∈ newCandidates s node endpoints, key ≠ (node, c.endpointId)) →
      (updatedAll s node endpoints generation now).candidates.find key = _ ∧
        (updatedAll s node endpoints generation now).verifications.find key = _ :=
    fun h => find_insertedAll_of_notMem h
  have hkn : ∀ {e}, (s.candidates.find (node, e)).isSome →
      ∀ c ∈ newCandidates s node endpoints, (node, e) ≠ (node, c.endpointId) := by
    intro e hsome c hc hkey
    rw [(Prod.mk.inj hkey).2, (mem_newCandidates.1 hc).2] at hsome
    cases hsome
  refine ⟨insertedAll_policy, insertedAll_hosts, insertedAll_attempts, ?_, ?_, ?_, ?_, ?_⟩
  · apply keyed_insertedAll (nodup_newCandidates hids)
    · intro c hc
      rw [find_withdrawnAll hnewer, (mem_newCandidates.1 hc).2]
      rfl
    · exact keyed_withdrawMissing.2 (keyed_refreshedAll.2 hkeyed)
  · intro key hkey
    have hnew : ∀ c ∈ newCandidates s node endpoints, key ≠ (node, c.endpointId) :=
      fun c _ h => hkey (congrArg Prod.fst h)
    obtain ⟨hrow, hvf⟩ := hold hnew
    rw [hrow, hvf]
    exact withdrawnAll_elsewhere hkey
  · intro c hc hnone
    exact find_insertedAll_of_mem (nodup_newCandidates hids) (mem_newCandidates.2 ⟨hc, hnone⟩)
  · intro c hc row hrow
    have hmem : c.endpointId ∈ endpoints.map (·.endpointId) := List.mem_map.2 ⟨c, hc, rfl⟩
    obtain ⟨hrow', hvf⟩ := hold (hkn (Option.isSome_iff_exists.2 ⟨row, hrow⟩))
    rw [find_withdrawnAll hnewer, hrow] at hrow'
    rw [verification_withdrawnAll hnewer] at hvf
    refine ⟨(hall c hc).unchanged row hrow, ?_, ?_⟩
    · rw [hrow', Option.map_some, if_pos hmem]
    · rw [hvf]
      apply Option.map_congr
      intro v _
      simp [restart, Reannounced, hmem, isWithdrawn_of_find hrow]
  · intro endpoint hnot
    have hnew : ∀ c ∈ newCandidates s node endpoints, (node, endpoint) ≠ (node, c.endpointId) := by
      intro c hc hkey
      exact hnot (List.mem_map.2 ⟨c, (mem_newCandidates.1 hc).1, (Prod.mk.inj hkey).2.symm⟩)
    obtain ⟨hrow, hvf⟩ := hold hnew
    rw [hrow, hvf, find_withdrawnAll hnewer, verification_withdrawnAll hnewer]
    simp only [if_neg hnot, and_self]

/-- An endpoint belongs to another node, is reported, or is missing from the report. -/
theorem key_cases (node : NodeId) (endpoints : List EndpointCandidate)
    (key : NodeId × EndpointId) : key.1 ≠ node ∨ (∃ c ∈ endpoints, key = (node, c.endpointId)) ∨
      ∃ e, e ∉ endpoints.map (·.endpointId) ∧ key = (node, e) := by
  obtain ⟨n, e⟩ := key
  by_cases hn : n = node
  · subst hn
    by_cases he : e ∈ endpoints.map (·.endpointId)
    · obtain ⟨c, hc, rfl⟩ := List.mem_map.1 he
      exact .inr (.inl ⟨c, hc, rfl⟩)
    · exact .inr (.inr ⟨e, he, rfl⟩)
  · exact .inl hn

end RealityConsole.Endpoints
