import RealityConsole.Controller.Endpoints

/-!
# The candidate update of a heartbeat

The update refreshes the reported candidates that are known, withdraws the missing ones and inserts
the new ones. Two of its loops are given in closed form: they succeed exactly if every candidate is
admissible before the loop.
-/

namespace RealityConsole.Endpoints

open Framework Protocol Controller

variable {s s' : EndpointStore} {node : NodeId} {endpoint : EndpointId} {generation now : Nat}
  {c : EndpointCandidate} {row : CandidateRow} {key : NodeId × EndpointId} {ids : List EndpointId}

/-! ### Rows -/

theorem addressKey_of_unchanged (h : row.unchanged c) : row.addressKey = c.addressKey := by
  simp only [CandidateRow.unchanged, Bool.and_eq_true, decide_eq_true_eq] at h
  obtain ⟨⟨⟨⟨⟨⟨hmode, -⟩, haddr⟩, hport⟩, hrev⟩, -⟩, -⟩ := h
  rw [CandidateRow.addressKey, EndpointCandidate.addressKey, hmode, haddr, hport, hrev]

@[simp] theorem addressKey_refreshed : (row.refreshed generation).addressKey = row.addressKey := rfl

@[simp] theorem withdrawnAt_refreshed : (row.refreshed generation).withdrawnAt = none := rfl

@[simp] theorem unchanged_refreshed : (row.refreshed generation).unchanged c = row.unchanged c :=
  rfl

/-- An attempt keeps everything but its status, and keeps that too once it is finished. -/
structure Kept (a a' : ProbeAttempt) : Prop where
  eq : a' = { a with status := a'.status }
  finished : a.status ≠ .claimed → a' = a

theorem Kept.refl (a : ProbeAttempt) : Kept a a := ⟨rfl, fun _ => rfl⟩

theorem kept_finish (a : ProbeAttempt) (status : ProbeStatus) : Kept a (a.finish status) := by
  unfold ProbeAttempt.finish
  by_cases hclaimed : a.status = .claimed
  · rw [if_pos hclaimed]
    exact ⟨rfl, fun hne => absurd hclaimed hne⟩
  · rw [if_neg hclaimed]
    exact Kept.refl a

@[simp] theorem nodeId_finish (a : ProbeAttempt) (status : ProbeStatus) :
    (a.finish status).nodeId = a.nodeId := by rw [(kept_finish a status).eq]

@[simp] theorem endpointId_finish (a : ProbeAttempt) (status : ProbeStatus) :
    (a.finish status).endpointId = a.endpointId := by rw [(kept_finish a status).eq]

theorem isOf_iff {a : ProbeAttempt} :
    a.isOf node endpoint = true ↔ a.nodeId = node ∧ a.endpointId = endpoint := by
  simp [ProbeAttempt.isOf]

/-! ### Current addresses -/

variable {address : AddressKey}

theorem addressTaken_iff (hkeyed : s.candidates.Keyed) :
    s.addressTaken node endpoint address = true ↔
    ∃ other row, other ≠ endpoint ∧ s.candidates.find (node, other) = some row ∧ row.withdrawnAt =
    none ∧ row.addressKey = address := by
  simp only [EndpointStore.addressTaken, List.any_eq_true, Bool.and_eq_true, decide_eq_true_eq,
    Option.isNone_iff_eq_none, ne_eq]
  constructor
  · rintro ⟨⟨⟨n, other⟩, row⟩, hmem, ⟨⟨rfl, hoth⟩, hcur⟩, haddr⟩
    exact ⟨other, row, hoth, hkeyed.find_eq_some_iff.2 hmem, hcur, haddr⟩
  · rintro ⟨other, row, hoth, hfind, hcur, haddr⟩
    exact ⟨_, hkeyed.find_eq_some_iff.1 hfind, ⟨⟨rfl, hoth⟩, hcur⟩, haddr⟩

theorem not_addressTaken_iff (hkeyed : s.candidates.Keyed) : s.addressTaken node endpoint address =
    false ↔ ∀ other row, s.candidates.find (node, other) = some row → row.withdrawnAt = none →
    row.addressKey = address → other = endpoint := by
  rw [← Bool.not_eq_true, addressTaken_iff hkeyed]
  push Not
  constructor
  · intro h other row hfind hcur haddr
    by_contra hne
    exact h other row hne hfind hcur haddr
  · intro h other row hne hfind hcur haddr
    exact hne (h other row hfind hcur haddr)

/-! ### Refreshing the known candidates -/

def refreshRow (node : NodeId) (ids : List EndpointId) (generation : Nat)
    (key : NodeId × EndpointId) (row : CandidateRow) : CandidateRow :=
  if key.1 = node ∧ key.2 ∈ ids then row.refreshed generation else row

/-- A candidate is announced again after a withdrawal. -/
def Reannounced (s : EndpointStore) (node : NodeId) (ids : List EndpointId)
    (key : NodeId × EndpointId) : Prop :=
  key.1 = node ∧ key.2 ∈ ids ∧ s.isWithdrawn key = true

instance (s : EndpointStore) (node : NodeId) (ids : List EndpointId) :
    DecidablePred (Reannounced s node ids) :=
  fun _ => inferInstanceAs (Decidable (_ ∧ _))

def cancelAttempt (s : EndpointStore) (node : NodeId) (ids : List EndpointId) (now : Nat)
    (a : ProbeAttempt) : ProbeAttempt :=
  if Reannounced s node ids (a.nodeId, a.endpointId) then a.finish (.cancelled now) else a

def restart (s : EndpointStore) (node : NodeId) (ids : List EndpointId)
    (key : NodeId × EndpointId) (v : Verification) : Verification :=
  if Reannounced s node ids key ∧ v = .withdrawn then .pending else v

/-- The tables after the candidates of a node with the given identities have been reported again. -/
def refreshedAll (s : EndpointStore) (node : NodeId) (ids : List EndpointId)
    (generation now : Nat) : EndpointStore :=
  { s with
    candidates := s.candidates.update (refreshRow node ids generation)
    attempts := s.attempts.map (cancelAttempt s node ids now)
    verifications := s.verifications.update (restart s node ids) }

theorem find_refreshedAll : (refreshedAll s node ids generation now).candidates.find key
    = (s.candidates.find key).map (refreshRow node ids generation key) :=
  Table.find_update key (refreshRow node ids generation) s.candidates

theorem keyed_refreshedAll :
    (refreshedAll s node ids generation now).candidates.Keyed ↔ s.candidates.Keyed :=
  Table.keyed_update (f := refreshRow node ids generation)

theorem find_refreshedAll_of_notMem (hnot : endpoint ∉ ids) :
    (refreshedAll s node ids generation now).candidates.find (node, endpoint)
      = s.candidates.find (node, endpoint) := by
  have hrow : refreshRow node ids generation (node, endpoint) = id :=
    funext fun _ => if_neg fun h => hnot h.2
  rw [find_refreshedAll, hrow, Option.map_id, id]

theorem isWithdrawn_refreshedAll : (refreshedAll s node ids generation now).isWithdrawn key = true ↔
      s.isWithdrawn key ∧ ¬ (key.1 = node ∧ key.2 ∈ ids) := by
  unfold EndpointStore.isWithdrawn
  rw [find_refreshedAll]
  cases s.candidates.find key with
  | none => simp
  | some row =>
    by_cases hkey : key.1 = node ∧ key.2 ∈ ids
    · simp [refreshRow, hkey]
    · rw [Option.map_some, refreshRow, if_neg hkey]
      exact ⟨fun h => ⟨h, hkey⟩, And.left⟩

/-- After one candidate, the others are announced again as before. -/
theorem reannounced_cons (hnot : endpoint ∉ ids) :
    Reannounced s node (endpoint :: ids) key ↔ Reannounced s node [endpoint] key ∨
      Reannounced (refreshedAll s node [endpoint] generation now) node ids key := by
  unfold Reannounced
  rw [isWithdrawn_refreshedAll]
  rw [List.mem_cons, List.mem_singleton]
  by_cases hone : key.2 = endpoint
  · have hrest : key.2 ∉ ids := hone ▸ hnot
    tauto
  · tauto

theorem refreshedAll_nil : refreshedAll s node [] generation now = s := by
  have hnone : ∀ key, ¬ Reannounced s node [] key := by
    rintro key ⟨-, hmem, -⟩
    cases hmem
  have hrows : refreshRow node [] generation = fun _ row => row :=
    funext fun key => funext fun row => if_neg fun h => by cases h.2
  have hatt : cancelAttempt s node [] now = id := funext fun a => if_neg (hnone _)
  have hrestart : restart s node [] = fun _ v => v :=
    funext fun key => funext fun v => if_neg fun h => hnone key h.1
  unfold refreshedAll
  rw [hrows, hatt, hrestart, List.map_id, Table.update_self, Table.update_self]

theorem refreshedAll_cons (hnot : endpoint ∉ ids) :
    refreshedAll (refreshedAll s node [endpoint] generation now) node ids generation now
      = refreshedAll s node (endpoint :: ids) generation now := by
  have hsplit : ∀ key, Reannounced s node (endpoint :: ids) key ↔
      Reannounced s node [endpoint] key ∨
        Reannounced (refreshedAll s node [endpoint] generation now) node ids key :=
    fun _ => reannounced_cons hnot
  have honce : ∀ key, Reannounced s node [endpoint] key →
      ¬ Reannounced (refreshedAll s node [endpoint] generation now) node ids key := by
    rintro key ⟨-, hone, -⟩ ⟨-, hmem, -⟩
    rw [List.mem_singleton.1 hone] at hmem
    exact hnot hmem
  have hrows : (s.candidates.update (refreshRow node [endpoint] generation)).update
      (refreshRow node ids generation) = s.candidates.update
        (refreshRow node (endpoint :: ids) generation) := by
    rw [Table.update_update]
    apply Table.update_congr
    rintro ⟨⟨n, e⟩, row⟩ -
    by_cases hone : e = endpoint
    · simp [refreshRow, hone, hnot]
    · simp [refreshRow, hone]
  have hatt : (s.attempts.map (cancelAttempt s node [endpoint] now)).map
      (cancelAttempt (refreshedAll s node [endpoint] generation now) node ids now)
        = s.attempts.map (cancelAttempt s node (endpoint :: ids) now) := by
    rw [List.map_map]
    apply List.map_congr_left
    intro a _
    simp only [Function.comp_apply, cancelAttempt, hsplit]
    by_cases hone : Reannounced s node [endpoint] (a.nodeId, a.endpointId)
    · simp [hone, honce _ hone]
    · simp [hone]
  have hrestart : (s.verifications.update (restart s node [endpoint])).update
      (restart (refreshedAll s node [endpoint] generation now) node ids)
        = s.verifications.update (restart s node (endpoint :: ids)) := by
    rw [Table.update_update]
    apply Table.update_congr
    rintro ⟨key, v⟩ -
    simp only [restart, hsplit]
    by_cases hone : Reannounced s node [endpoint] key
    · simp [hone, honce _ hone]
    · simp [hone]
  unfold refreshedAll at hatt hrestart ⊢
  rw [hrows, hatt, hrestart]

theorem isWithdrawn_of_find (hfind : s.candidates.find key = some row) :
    s.isWithdrawn key = row.withdrawnAt.isSome := by
  rw [EndpointStore.isWithdrawn, hfind, Option.any_some]

theorem refreshed_eq (hfind : s.candidates.find (node, endpoint) = some row) :
    s.refreshed node endpoint row generation now
      = refreshedAll s node [endpoint] generation now := by
  have hiff : ∀ key, Reannounced s node [endpoint] key ↔
      key = (node, endpoint) ∧ row.withdrawnAt.isSome = true := by
    rintro ⟨n, e⟩
    rw [Reannounced, List.mem_singleton, Prod.mk.injEq, and_assoc]
    constructor
    · rintro ⟨rfl, rfl, hwd⟩
      exact ⟨rfl, rfl, isWithdrawn_of_find hfind ▸ hwd⟩
    · rintro ⟨rfl, rfl, hwd⟩
      exact ⟨rfl, rfl, (isWithdrawn_of_find hfind).trans hwd⟩
  have hrows : s.candidates.updateAt (node, endpoint) (CandidateRow.refreshed generation)
      = s.candidates.update (refreshRow node [endpoint] generation) := by
    apply Table.update_congr
    rintro ⟨⟨n, e⟩, row⟩ -
    simp [refreshRow]
  have hatt : (s.attempts.map fun a =>
      if row.withdrawnAt.isSome ∧ a.isOf node endpoint then a.finish (.cancelled now) else a)
        = s.attempts.map (cancelAttempt s node [endpoint] now) := by
    apply List.map_congr_left
    intro a _
    simp only [cancelAttempt, hiff, Prod.mk.injEq, isOf_iff, and_comm]
  have hrestart : (s.verifications.updateAt (node, endpoint) fun v =>
      if row.withdrawnAt.isSome ∧ v = .withdrawn then .pending else v)
        = s.verifications.update (restart s node [endpoint]) := by
    apply Table.update_congr
    rintro ⟨key, v⟩ -
    simp only [restart, hiff]
    by_cases hkey : key = (node, endpoint)
    · simp only [hkey, true_and, if_true]
    · simp only [hkey, false_and, if_false]
  unfold EndpointStore.refreshed refreshedAll
  rw [hrows, hatt, hrestart]

theorem refreshedAll_of_find_none (hfind : s.candidates.find (node, endpoint) = none) :
    refreshedAll s node [endpoint] generation now = s := by
  have hnone : ∀ key, ¬ Reannounced s node [endpoint] key := by
    rintro ⟨n, e⟩ ⟨rfl, he, hwd⟩
    obtain rfl := List.mem_singleton.1 he
    rw [EndpointStore.isWithdrawn, hfind] at hwd
    cases hwd
  have hrows : s.candidates.update (refreshRow node [endpoint] generation) = s.candidates := by
    refine (Table.update_congr ?_).trans (Table.update_self _)
    rintro ⟨⟨n, e⟩, row⟩ hmem
    apply if_neg
    rintro ⟨rfl, he⟩
    obtain rfl := List.mem_singleton.1 he
    exact Table.find_eq_none_iff.1 hfind (List.mem_map.2 ⟨_, hmem, rfl⟩)
  have hatt : cancelAttempt s node [endpoint] now = id := funext fun a => if_neg (hnone _)
  have hrestart : restart s node [endpoint] = fun _ v => v :=
    funext fun key => funext fun v => if_neg fun h => hnone key h.1
  unfold refreshedAll
  rw [hrows, hatt, hrestart, List.map_id, Table.update_self]

structure Admissible (s : EndpointStore) (node : NodeId) (now : Nat) (c : EndpointCandidate) :
    Prop where
  port : c.mode = .direct → s.policy.publicPortOf node c.appliedRevision = some c.port
  /-- A known identity comes with the fields it was reported with. -/
  unchanged : ∀ row, s.candidates.find (node, c.endpointId) = some row → row.unchanged c = true
  /-- No other current candidate has the address of a withdrawn one. -/
  free : s.isWithdrawn (node, c.endpointId) = true →
    s.addressTaken node c.endpointId c.addressKey = false
  /-- The open attempts of a withdrawn one have started by now. -/
  started : s.isWithdrawn (node, c.endpointId) = true →
    ∀ a ∈ s.claimedAttempts node c.endpointId, a.startedAt ≤ now

theorem refreshEndpointCandidate_ok {known : Bool} :
    (s.validateEndpointCandidateRevision node c = .ok () ∧
      s.refreshEndpointCandidate node c generation now = .ok (s', known)) ↔
    Admissible s node now c ∧ s' = refreshedAll s node [c.endpointId] generation now ∧
      known = (s.candidates.find (node, c.endpointId)).isSome := by
  have hport : s.validateEndpointCandidateRevision node c = .ok () ↔
      (c.mode = .direct → s.policy.publicPortOf node c.appliedRevision = some c.port) := by
    simp [EndpointStore.validateEndpointCandidateRevision]
  rw [hport]
  unfold EndpointStore.refreshEndpointCandidate
  cases hfind : s.candidates.find (node, c.endpointId) with
  | none =>
    have hwd : ¬ s.isWithdrawn (node, c.endpointId) = true := by
      rw [EndpointStore.isWithdrawn, hfind]
      exact Bool.false_ne_true
    simp only [Except.ok.injEq, Prod.mk.injEq, refreshedAll_of_find_none hfind, Option.isSome_none]
    constructor
    · rintro ⟨h, rfl, rfl⟩
      refine ⟨⟨h, ?_, fun h => absurd h hwd, fun h => absurd h hwd⟩, rfl, rfl⟩
      intro row hrow
      rw [hfind] at hrow
      cases hrow
    · rintro ⟨h, rfl, rfl⟩
      exact ⟨h.port, rfl, rfl⟩
  | some row =>
    have hwd : s.isWithdrawn (node, c.endpointId) = row.withdrawnAt.isSome :=
      isWithdrawn_of_find hfind
    simp only [check_ok, refuse_ok, Bool.not_eq_true', Bool.not_eq_false, pure,
      Except.pure, Except.ok.injEq, Prod.mk.injEq, not_and, List.any_eq_true, decide_eq_true_eq,
      not_exists, Nat.not_lt, refreshed_eq hfind, Option.isSome_some, Bool.not_eq_true]
    constructor
    · rintro ⟨hmatch, hsame, hfree, hstarted, rfl, rfl⟩
      refine ⟨⟨hmatch, ?_, ?_, ?_⟩, rfl, rfl⟩
      · intro other hoth
        obtain rfl := Option.mem_unique hfind hoth
        exact hsame
      · rw [hwd, ← addressKey_of_unchanged hsame]
        exact hfree
      · rw [hwd]
        exact hstarted
    · rintro ⟨h, rfl, rfl⟩
      have hsame := h.unchanged row hfind
      have hfree := h.free
      have hstarted := h.started
      rw [hwd] at hfree hstarted
      rw [← addressKey_of_unchanged hsame] at hfree
      exact ⟨h.port, hsame, hfree, hstarted, rfl, rfl⟩

theorem addressTaken_refreshedAll {other : EndpointId} (hkeyed : s.candidates.Keyed)
    (hrow : ∀ row, s.candidates.find (node, endpoint) = some row → row.addressKey ≠ address) :
    (refreshedAll s node [endpoint] generation now).addressTaken node other address
      = s.addressTaken node other address := by
  rw [Bool.eq_iff_iff, addressTaken_iff (keyed_refreshedAll.2 hkeyed), addressTaken_iff hkeyed]
  apply exists_congr
  intro e
  by_cases he : e = endpoint
  · subst he
    rw [find_refreshedAll]
    constructor
    · rintro ⟨row', hne, hfind, -, haddr⟩
      obtain ⟨row, hold, rfl⟩ := Option.map_eq_some_iff.1 hfind
      rw [refreshRow, if_pos ⟨rfl, List.mem_singleton_self _⟩] at haddr
      exact absurd haddr (hrow row hold)
    · rintro ⟨row, hne, hfind, -, haddr⟩
      exact absurd haddr (hrow row hfind)
  · rw [find_refreshedAll_of_notMem fun hmem => he (List.mem_singleton.1 hmem)]

theorem mem_claimedAttempts_refreshedAll {other : EndpointId} (hne : other ≠ endpoint)
    {a : ProbeAttempt} :
    a ∈ (refreshedAll s node [endpoint] generation now).claimedAttempts node other ↔
      a ∈ s.claimedAttempts node other := by
  have hsame : ∀ a : ProbeAttempt, a.isOf node other = true →
      cancelAttempt s node [endpoint] now a = a := by
    intro a ha
    apply if_neg
    rintro ⟨-, hmem, -⟩
    exact hne ((isOf_iff.1 ha).2.symm.trans (List.mem_singleton.1 hmem))
  have hof : ∀ a : ProbeAttempt, (cancelAttempt s node [endpoint] now a).isOf node other
      = a.isOf node other := by
    intro a
    unfold cancelAttempt
    split
    · simp only [ProbeAttempt.isOf, nodeId_finish, endpointId_finish]
    · rfl
  simp only [EndpointStore.claimedAttempts, List.mem_filter, Bool.and_eq_true, decide_eq_true_eq]
  constructor
  · rintro ⟨hmem, hisOf, hclaimed⟩
    obtain ⟨b, hb, rfl⟩ := List.mem_map.1 hmem
    rw [hof] at hisOf
    rw [hsame b hisOf] at hclaimed ⊢
    exact ⟨hb, hisOf, hclaimed⟩
  · rintro ⟨hmem, hisOf, hclaimed⟩
    exact ⟨List.mem_map.2 ⟨a, hmem, hsame a hisOf⟩, hisOf, hclaimed⟩

theorem admissible_refreshedAll {d : EndpointCandidate} (hkeyed : s.candidates.Keyed)
    (hc : Admissible s node now c) (hid : d.endpointId ≠ c.endpointId)
    (haddr : d.addressKey ≠ c.addressKey) :
    Admissible (refreshedAll s node [c.endpointId] generation now) node now d ↔
      Admissible s node now d := by
  have hnot : d.endpointId ∉ [c.endpointId] := fun hmem => hid (List.mem_singleton.1 hmem)
  have hfind : (refreshedAll s node [c.endpointId] generation now).candidates.find (node,
    d.endpointId) = s.candidates.find (node, d.endpointId) := find_refreshedAll_of_notMem hnot
  have hwd : (refreshedAll s node [c.endpointId] generation now).isWithdrawn
      (node, d.endpointId) = s.isWithdrawn (node, d.endpointId) := by
    unfold EndpointStore.isWithdrawn
    rw [hfind]
  have htaken : (refreshedAll s node [c.endpointId] generation now).addressTaken node
      d.endpointId d.addressKey = s.addressTaken node d.endpointId d.addressKey := by
    apply addressTaken_refreshedAll hkeyed
    intro row hrow hsame
    rw [addressKey_of_unchanged (hc.unchanged row hrow)] at hsame
    exact haddr hsame.symm
  have hatt : ∀ a, a ∈ (refreshedAll s node [c.endpointId] generation now).claimedAttempts
      node d.endpointId ↔ a ∈ s.claimedAttempts node d.endpointId :=
    fun _ => mem_claimedAttempts_refreshedAll hid
  constructor
  · rintro ⟨hport, hunch, hfree, hstarted⟩
    rw [hfind] at hunch
    rw [hwd] at hfree hstarted
    rw [htaken] at hfree
    exact ⟨hport, hunch, hfree, fun h a ha => hstarted h a ((hatt a).mpr ha)⟩
  · rintro ⟨hport, hunch, hfree, hstarted⟩
    refine ⟨hport, ?_, ?_, ?_⟩
    · rwa [hfind]
    · rwa [hwd, htaken]
    · rw [hwd]
      exact fun h a ha => hstarted h a ((hatt a).mp ha)

def newCandidates (s : EndpointStore) (node : NodeId) (endpoints : List EndpointCandidate) :
    List EndpointCandidate :=
  endpoints.filter fun c => (s.candidates.find (node, c.endpointId)).isNone

theorem refreshCandidates_ok {endpoints new : List EndpointCandidate} (hkeyed : s.candidates.Keyed)
    (hids : (endpoints.map (·.endpointId)).Nodup) (hads : (endpoints.map (·.addressKey)).Nodup) :
    s.refreshCandidates node generation now endpoints = .ok (s', new) ↔
    (∀ c ∈ endpoints, Admissible s node now c) ∧ s' =
    refreshedAll s node (endpoints.map (·.endpointId)) generation now ∧ new =
    newCandidates s node endpoints := by
  induction endpoints generalizing s s' new with
  | nil =>
    simp only [EndpointStore.refreshCandidates, Except.ok.injEq, Prod.mk.injEq, List.map_nil,
      refreshedAll_nil, newCandidates, List.filter_nil, List.not_mem_nil, false_imp_iff,
      implies_true, true_and]
    exact and_congr eq_comm eq_comm
  | cons c rest ih =>
    obtain ⟨hcid, hrids⟩ := List.nodup_cons.1 hids
    obtain ⟨hcadr, hradr⟩ := List.nodup_cons.1 hads
    have hoth : ∀ d ∈ rest, d.endpointId ≠ c.endpointId ∧ d.addressKey ≠ c.addressKey := by
      intro d hd
      exact ⟨fun h => hcid (List.mem_map.2 ⟨d, hd, h⟩), fun h => hcadr (List.mem_map.2 ⟨d, hd, h⟩)⟩
    -- what the first step leaves for the rest of the loop
    have hrest : Admissible s node now c → ((∀ d ∈ rest, Admissible
        (refreshedAll s node [c.endpointId] generation now) node now d) ↔
          ∀ d ∈ rest, Admissible s node now d) := fun hc =>
      forall₂_congr fun d hd => admissible_refreshedAll hkeyed hc (hoth d hd).1 (hoth d hd).2
    have hnew : newCandidates (refreshedAll s node [c.endpointId] generation now) node rest
        = newCandidates s node rest := by
      apply List.filter_congr
      intro d hd
      rw [find_refreshedAll_of_notMem fun hmem => (hoth d hd).1 (List.mem_singleton.1 hmem)]
    have hcons : refreshedAll (refreshedAll s node [c.endpointId] generation now) node
        (rest.map (·.endpointId)) generation now
          = refreshedAll s node ((c :: rest).map (·.endpointId)) generation now :=
      refreshedAll_cons hcid
    constructor
    · intro h
      obtain ⟨hport, h⟩ := check_ok.1 h
      obtain ⟨⟨mid, known⟩, hrefresh, h⟩ := bind_ok.1 h
      obtain ⟨⟨last, tail⟩, hloop, h⟩ := bind_ok.1 h
      obtain ⟨hc, rfl, rfl⟩ := refreshEndpointCandidate_ok.1 ⟨hport, hrefresh⟩
      obtain ⟨hall, rfl, rfl⟩ := (ih (keyed_refreshedAll.2 hkeyed) hrids hradr).mp hloop
      cases h
      refine ⟨List.forall_mem_cons.2 ⟨hc, (hrest hc).mp hall⟩, hcons, ?_⟩
      rw [hnew]
      unfold newCandidates
      rw [List.filter_cons]
      cases s.candidates.find (node, c.endpointId) <;> rfl
    · rintro ⟨hall, rfl, rfl⟩
      obtain ⟨hc, hrestAll⟩ := List.forall_mem_cons.1 hall
      have hstep : s.validateEndpointCandidateRevision node c = .ok () ∧
          s.refreshEndpointCandidate node c generation now
            = .ok (refreshedAll s node [c.endpointId] generation now, _) :=
        refreshEndpointCandidate_ok.2 ⟨hc, rfl, rfl⟩
      have hloop := (ih (keyed_refreshedAll.2 hkeyed) hrids hradr).mpr
        ⟨(hrest hc).mpr hrestAll, rfl, rfl⟩
      unfold EndpointStore.refreshCandidates
      rw [hstep.1, ok_bind, hstep.2, ok_bind]
      dsimp only
      rw [hloop, ok_bind]
      dsimp only
      rw [hcons, hnew]
      unfold newCandidates
      rw [List.filter_cons]
      cases s.candidates.find (node, c.endpointId) <;> rfl

end RealityConsole.Endpoints
