import RealityConsole.RelayProvisioning.Effects
import RealityConsole.RelayRotation.Loading

/-!
# Revoked grants and the directory

A pass that has listed a publication does not look at the grant again before it writes the document.
If the grant is revoked in between, the document appears after its removal was observed, and no job
is left that would remove it.
-/

namespace RealityConsole.RelayProvisioning

open Framework Protocol Controller

variable {codec : RouteCodec} {config : RelayProvisioningConfig} {key : PublicKey}

/-! ### States move forward -/

inductive Moves : RelayGrantState → RelayGrantState → Prop where
  | stays (s : RelayGrantState) : Moves s s
  | published : Moves .pending .published
  | withdrawn {s : RelayGrantState} (h : s.isOpen = true) : Moves s .revoking
  | revoked : Moves .revoking .revoked

variable {s s' : RelayGrantState}

/-- A grant that is closing does not open again. -/
theorem Moves.closing (h : Moves s s')
    (hs : s = .revoking ∨ s = .revoked) : s' = .revoking ∨ s' = .revoked := by
  cases h with
  | stays => exact hs
  | published => rcases hs with hs | hs <;> cases hs
  | withdrawn => exact .inl rfl
  | revoked => exact .inr rfl

theorem Moves.revoked_stays (h : Moves s s') (hs : s = .revoked) : s' = .revoked := by
  cases h with
  | stays => exact hs
  | published => cases hs
  | withdrawn hopen =>
    rw [hs] at hopen
    cases hopen
  | revoked => rfl

def UniqueGrants (t : RelayTables) : Prop :=
  ∀ g ∈ t.grants, ∀ h ∈ t.grants, g.grantId = h.grantId → g = h

structure Evolves (t t' : RelayTables) : Prop where
  forward : ∀ g ∈ t.grants, ∃ g' ∈ t'.grants, g'.route = g.route ∧ Moves g.state g'.state
  backward : ∀ g' ∈ t'.grants, (∃ g ∈ t.grants, g'.route = g.route ∧ Moves g.state g'.state) ∨
    g'.state = .pending
  unique : UniqueGrants t'

/-- The grants moved forward and none is new. -/
structure Carries (t t' : RelayTables) : Prop where
  moved : ∃ f : RelayGrant → RelayGrant, t'.grants = t.grants.map f ∧
    ∀ g ∈ t.grants, (f g).route = g.route ∧ Moves g.state (f g).state
  unique : UniqueGrants t'

variable {t t' : RelayTables}

theorem Carries.backward (h : Carries t t') {g' : RelayGrant}
    (hg' : g' ∈ t'.grants) : ∃ g ∈ t.grants, g'.route = g.route ∧ Moves g.state g'.state := by
  obtain ⟨f, hgrants, hf⟩ := h.moved
  rw [hgrants] at hg'
  obtain ⟨g, hg, rfl⟩ := List.mem_map.1 hg'
  exact ⟨g, hg, hf g hg⟩

theorem Carries.evolves (h : Carries t t') : Evolves t t' where
  forward g hg := by
    obtain ⟨f, hgrants, hf⟩ := h.moved
    exact ⟨f g, hgrants ▸ List.mem_map_of_mem hg, hf g hg⟩
  backward g' hg' := .inl (h.backward hg')
  unique := h.unique

theorem carries_of_map {f : RelayGrant → RelayGrant}
    (huniq : UniqueGrants t) (h : t'.grants = t.grants.map f)
    (hf : ∀ g ∈ t.grants, (f g).route = g.route ∧ Moves g.state (f g).state) : Carries t t' where
  moved := ⟨f, h, hf⟩
  unique := by
    intro a ha b hb hid
    rw [h] at ha hb
    obtain ⟨g, hg, rfl⟩ := List.mem_map.1 ha
    obtain ⟨k, hk, rfl⟩ := List.mem_map.1 hb
    have hsame : g.grantId = k.grantId := by
      unfold RelayGrant.grantId at hid ⊢
      rwa [(hf g hg).1, (hf k hk).1] at hid
    rw [huniq g hg k hk hsame]

theorem Withdraws.carries (huniq : UniqueGrants t) (h : Withdraws t t') : Carries t t' := by
  obtain ⟨selected, hopen, hgrants⟩ := h
  apply carries_of_map huniq hgrants
  intro g _
  by_cases hsel : selected g = true
  · rw [if_pos hsel]
    exact ⟨rfl, .withdrawn (hopen g hsel)⟩
  · rw [if_neg hsel]
    exact ⟨rfl, .stays _⟩

theorem Acknowledged.withdraws {node : NodeId} {req : AcknowledgeRelayAssignmentRequest} {now : Nat}
    {cur : RelayGrant} (h : Acknowledged t node req now cur t') : Withdraws t t' := by
  refine ⟨_, ?_, h.grants⟩
  intro g hg
  simp only [superseded, Bool.and_eq_true, decide_eq_true_eq] at hg
  rw [hg.2]
  rfl

variable {grantId : RelayGrantId}

theorem Published.carries (huniq : UniqueGrants t) (h : Published t grantId t') : Carries t t' := by
  obtain ⟨pending, hmem, hid, hst⟩ := h.pending
  obtain ⟨now, hgrants⟩ := h.grants
  apply carries_of_map huniq hgrants
  intro g hg
  by_cases hsel : g.grantId = grantId
  · rw [if_pos hsel]
    refine ⟨rfl, ?_⟩
    rw [huniq g hg pending hmem (hsel.trans hid.symm), hst]
    exact .published
  · rw [if_neg hsel]
    exact ⟨rfl, .stays _⟩

theorem markRelayRevoked_carries {t : RelayTables} (huniq : UniqueGrants t)
    (grantId : RelayGrantId) (now : Nat) : Carries t (t.markRelayRevoked grantId now) := by
  apply carries_of_map huniq rfl
  intro g _
  by_cases hsel : (decide (g.grantId = grantId) && decide (g.state = .revoking)) = true
  · rw [if_pos hsel]
    simp only [Bool.and_eq_true, decide_eq_true_eq] at hsel
    refine ⟨rfl, ?_⟩
    rw [hsel.2]
    exact .revoked
  · rw [if_neg hsel]
    exact ⟨rfl, .stays _⟩

theorem carries_refl (huniq : UniqueGrants t) (h : t'.grants = t.grants) : Carries t t' :=
  (withdraws_of_grants_eq h).carries huniq

variable {route : SignedRelayRoute}

theorem stored_evolves {now : Nat}
    (huniq : UniqueGrants t) (h : RelayTables.Stored codec t route t')
    (hgrants : t'.grants = t.grants ++ [⟨route, .pending, none, none, now⟩]) : Evolves t t' := by
  refine ⟨?_, ?_, ?_⟩
  · intro g hg
    refine ⟨g, ?_, rfl, .stays _⟩
    rw [hgrants]
    exact List.mem_append_left _ hg
  · intro g hg
    rw [hgrants] at hg
    rcases List.mem_append.1 hg with hold | hnew
    · exact .inl ⟨g, hold, rfl, .stays _⟩
    · rw [List.mem_singleton.1 hnew]
      exact .inr rfl
  · unfold UniqueGrants
    rw [hgrants]
    apply RelayRotation.unique_append huniq
    intro g hg
    exact h.fresh_grant g.route (List.mem_map_of_mem hg)

variable {l : Label} {w w' : World}

theorem Effect.carries (huniq : UniqueGrants w.tables) (h : Effect codec key w l w') :
    Carries w.tables w'.tables ∨ ∃ hdr token cert now, hdr ∈ w.drafts ∧
      w'.drafts = w.drafts.erase hdr ∧ w'.acknowledged = w.acknowledged ∧
      RelayTables.Stored codec w.tables (SignedRelayRoute.sign key hdr token cert)
        w'.tables ∧ w'.tables.grants = w.tables.grants ++
        [⟨SignedRelayRoute.sign key hdr token cert, .pending, none, none, now⟩] := by
  cases h with
  | withdrawn _ _ tables => exact .inl (tables.carries huniq)
  | listed _ _ tables => exact .inl (carries_refl huniq (congrArg _ tables))
  | prepared _ _ _ _ _ _ _ _ tables => exact .inl (carries_refl huniq tables.grants)
  | stored hdr token cert now _ _ drafted tables grants drafts acknowledged =>
    exact .inr ⟨hdr, token, cert, now, drafted, drafts, acknowledged, tables, grants⟩
  | acknowledged _ _ _ _ _ _ _ _ tables => exact .inl (tables.withdraws.carries huniq)
  | performed _ _ _ _ _ _ _ _ _ _ tables => exact .inl (carries_refl huniq (congrArg _ tables))
  | published _ _ tables => exact .inl (tables.carries huniq)
  | revoked _ _ _ _ tables =>
    rw [tables]
    exact .inl (markRelayRevoked_carries huniq _ _)

theorem Effect.evolves (huniq : UniqueGrants w.tables)
    (h : Effect codec key w l w') : Evolves w.tables w'.tables := by
  rcases h.carries huniq with hcar | ⟨_, _, _, _, -, -, -, hsto, hgrants⟩
  · exact hcar.evolves
  · exact stored_evolves huniq hsto hgrants

/-- Apart from a header that is drawn up, no call signs more headers than before and no node gets a
route. -/
theorem Effect.drafts (h : Effect codec key w l w') :
    (w'.drafts.Sublist w.drafts ∧ w'.tables.routes = w.tables.routes) ∨
      ∃ node limits fresh now hdr, l = .prepare node limits fresh now ∧
        w'.drafts = w.drafts ++ [hdr] ∧ Drafted w.tables node hdr w'.tables := by
  cases h with
  | withdrawn frame routes => exact .inl ⟨frame.drafts, routes⟩
  | listed _ _ tables _ _ drafts => exact .inl ⟨drafts ▸ List.Sublist.refl _, congrArg _ tables⟩
  | prepared node limits fresh now hdr label _ _ tables drafts =>
    exact .inr ⟨node, limits, fresh, now, hdr, label, drafts, tables⟩
  | stored _ _ _ _ _ _ _ tables _ drafts => exact .inl ⟨drafts ▸ List.erase_sublist, tables.routes⟩
  | acknowledged _ _ _ _ _ _ _ drafts tables =>
    exact .inl ⟨drafts ▸ List.Sublist.refl _, tables.routes⟩
  | performed _ _ _ _ _ _ _ _ _ _ tables _ drafts =>
    exact .inl ⟨drafts ▸ List.Sublist.refl _, congrArg _ tables⟩
  | published _ frame tables => exact .inl ⟨frame.drafts, tables.routes⟩
  | revoked _ _ frame _ tables =>
    rw [tables]
    exact .inl ⟨frame.drafts, rfl⟩

theorem Effect.acknowledgements (h : Effect codec key w l w') : w'.acknowledged = w.acknowledged ∨
    ∃ node req now cur, l = .acknowledge node req now ∧ w'.acknowledged =
    (cur.routeId, req.generation) :: w.acknowledged ∧
    Acknowledged w.tables node req now cur w'.tables := by
  cases h with
  | withdrawn frame => exact .inl frame.acknowledged
  | listed _ _ _ _ _ _ acknowledged => exact .inl acknowledged
  | prepared _ _ _ _ _ _ _ _ _ _ acknowledged => exact .inl acknowledged
  | stored _ _ _ _ _ _ _ _ _ _ acknowledged => exact .inl acknowledged
  | acknowledged node req now cur label _ _ _ tables acknowledged =>
    exact .inr ⟨node, req, now, cur, label, acknowledged, tables⟩
  | performed _ _ _ _ _ _ _ _ _ _ _ _ _ acknowledged => exact .inl acknowledged
  | published _ frame => exact .inl frame.acknowledged
  | revoked _ _ frame => exact .inl frame.acknowledged

def Closing (t : RelayTables) (grantId : RelayGrantId) : Prop :=
  ∃ g ∈ t.grants, g.grantId = grantId ∧ (g.state = .revoking ∨ g.state = .revoked)

theorem Closing.evolves (h : Closing t grantId) (hevol : Evolves t t') : Closing t' grantId := by
  obtain ⟨g, hg, rfl, hst⟩ := h
  obtain ⟨g', hg', hrt, hmoves⟩ := hevol.forward g hg
  refine ⟨g', hg', ?_, ?_⟩
  · unfold RelayGrant.grantId
    rw [hrt]
  · exact hmoves.closing hst

/-! ### Orderly runs -/

/-- The publication that a step carries out. -/
def World.publication (w : World) : Label → Option Job
  | .advance index _ _ =>
    match w.passes[index]? with
    | some (.work (job :: _) _) => if job.action = .publish then some job else none
    | _ => none
  | _ => none

/-- A publication is carried out while its grant is pending. -/
def Orderly (w : World) (l : Label) : Prop :=
  ∀ job ∈ w.publication l, ∃ g ∈ w.tables.grants, g.grantId = job.grantId ∧ g.state = .pending

instance (w : World) (l : Label) : Decidable (Orderly w l) :=
  inferInstanceAs (Decidable (∀ job ∈ w.publication l, _))

structure Listed (t : RelayTables) (job : Job) : Prop where
  document : ∀ route, job.route = some route →
    route.header.grantId = job.grantId ∧ ∃ g ∈ t.grants, g.route = route
  closing : job.action = .revoke → Closing t job.grantId

structure Inv (w : World) : Prop where
  unique : UniqueGrants w.tables
  /-- Documents are those of grants that hold their ports. -/
  owned : ∀ file ∈ w.files, ∃ g ∈ w.tables.grants, g.route = file ∧ g.state.holdsPort = true
  listed : ∀ job ∈ w.listed, Listed w.tables job
  /-- What was removed is still absent. -/
  removed : ∀ grantId ∈ w.removed,
    Closing w.tables grantId ∧ ∀ file ∈ w.files, file.header.grantId ≠ grantId

variable {job : Job}

theorem Listed.evolves (h : Listed t job) (hevol : Evolves t t') : Listed t' job where
  document route hrt := by
    obtain ⟨hid, g, hg, rfl⟩ := h.document route hrt
    obtain ⟨g', hg', hsame, -⟩ := hevol.forward g hg
    exact ⟨hid, g', hg', hsame⟩
  closing hactn := (h.closing hactn).evolves hevol

/-- A due job is about a grant in the state that its action starts from. -/
theorem listed_of_mem_dueJobs {t : RelayTables} {now : Nat}
    (h : job ∈ dueJobs t now) : Listed t job := by
  obtain ⟨row, hrow, rfl⟩ := List.mem_map.1 h
  obtain ⟨entry, hent, rfl⟩ := List.mem_map.1 hrow
  have hent := (List.perm_insertionSort _ _).mem_iff.1 hent
  have hdue := (List.mem_filter.1 hent).2
  simp only [RelayTables.isDue, Bool.and_eq_true, List.any_eq_true, decide_eq_true_eq] at hdue
  obtain ⟨-, g, hg, hid, hst⟩ := hdue
  refine ⟨?_, ?_⟩
  · intro route hrt
    split at hrt
    · obtain ⟨found, hfound, rfl⟩ := Option.map_eq_some_iff.1 hrt
      have hsame := List.find?_some hfound
      exact ⟨of_decide_eq_true hsame, found, List.mem_of_find?_eq_some hfound, rfl⟩
    · cases hrt
  · intro hactn
    dsimp only at hactn
    rw [hactn] at hst
    exact ⟨g, hg, hid, .inl hst⟩

/-- A step that leaves directory and memory alone keeps the invariant if every grant with a document
keeps its port. -/
theorem Inv.still (h : Inv w) (hstill : Still w w') (hevol : Evolves w.tables w'.tables)
    (hkept : ∀ g ∈ w.tables.grants, g.route ∈ w.files → g.state.holdsPort →
      ∃ g' ∈ w'.tables.grants, g'.route = g.route ∧ g'.state.holdsPort) : Inv w' where
  unique := hevol.unique
  owned := by
    intro file hfile
    rw [hstill.files] at hfile
    obtain ⟨g, hg, rfl, hst⟩ := h.owned file hfile
    exact hkept g hg hfile hst
  listed job hjob := (h.listed job (hstill.listed job hjob)).evolves hevol
  removed := by
    intro id hid
    obtain ⟨hclosing, habs⟩ := h.removed id (hstill.removed id hid)
    rw [hstill.files]
    exact ⟨hclosing.evolves hevol, habs⟩

theorem Withdraws.kept (h : Withdraws t t') {g : RelayGrant}
    (hg : g ∈ t.grants) (hst : g.state.holdsPort) :
    ∃ g' ∈ t'.grants, g'.route = g.route ∧ g'.state.holdsPort := by
  obtain ⟨selected, -, hgrants⟩ := h
  refine ⟨_, hgrants ▸ List.mem_map_of_mem hg, ?_⟩
  by_cases hsel : selected g = true
  · rw [if_pos hsel]
    exact ⟨rfl, rfl⟩
  · rw [if_neg hsel]
    exact ⟨rfl, hst⟩

theorem Published.kept (h : Published t grantId t')
    {g : RelayGrant} (hg : g ∈ t.grants) (hst : g.state.holdsPort) :
    ∃ g' ∈ t'.grants, g'.route = g.route ∧ g'.state.holdsPort := by
  obtain ⟨now, hgrants⟩ := h.grants
  refine ⟨_, hgrants ▸ List.mem_map_of_mem hg, ?_⟩
  by_cases hsel : g.grantId = grantId
  · rw [if_pos hsel]
    exact ⟨rfl, rfl⟩
  · rw [if_neg hsel]
    exact ⟨rfl, hst⟩

variable {files after : Files}

/-- A publication adds the document of its job, or nothing. -/
theorem mem_of_publish {route file : SignedRelayRoute} (h : publish codec files route = .ok after)
    (hfile : file ∈ after) : file ∈ files ∨ file = route := by
  obtain ⟨_, h⟩ := rest_ok h
  obtain ⟨_, h⟩ := rest_ok h
  split at h
  · split at h
    · cases h
      exact .inl hfile
    · cases h
  · cases h
    exact (List.mem_append.1 hfile).imp id List.mem_singleton.1

theorem mem_of_perform {io : Io} {done : Bool}
    {file : SignedRelayRoute} (h : perform codec files job io = some (after, done))
    (hfile : file ∈ after) : file ∈ files ∨ job.action = .publish ∧ job.route = some file := by
  unfold perform at h
  split at h
  · cases h
  · rename_i route hactn hrt
    split at h
    · rename_i published hpub
      cases h
      refine (mem_of_publish hpub hfile).imp id ?_
      rintro rfl
      exact ⟨hactn, hrt⟩
    · rename_i published hpub
      cases h
      refine (mem_of_publish hpub hfile).imp id ?_
      rintro rfl
      exact ⟨hactn, hrt⟩
    · cases h
      exact .inl hfile
    · cases h
      exact .inl hfile
  · split at h
    · cases h
      exact .inl (List.mem_filter.1 hfile).1
    · cases h
      exact .inl (List.mem_filter.1 hfile).1
    · cases h
      exact .inl hfile

/-- A removal that is reported as successful leaves no document of the grant. -/
theorem absent_of_perform {io : Io} (h : perform codec files job io = some (after, true))
    (hactn : job.action = .revoke) : ∀ file ∈ after, file.header.grantId ≠ job.grantId := by
  unfold perform at h
  rw [hactn] at h
  dsimp only at h
  intro file hfile
  split at h
  · cases h
    exact of_decide_eq_true (List.mem_filter.1 hfile).2
  · cases (Prod.mk.inj (Option.some.inj h)).2
  · cases (Prod.mk.inj (Option.some.inj h)).2

theorem Inv.performed {index : Nat} {io : Io} {jobs : List Job}
    {rounds : Nat} {done : Bool} (h : Inv w)
    (hpass : w.passes[index]? = some (.work (job :: jobs) rounds))
    (hrun : perform codec w.files job io = some (w'.files, done)) (htab : w'.tables = w.tables)
    (hpasses : w'.passes = setPass w.passes index (some (.mark job done jobs rounds)))
    (hpend : job.action = .publish →
      ∃ g ∈ w.tables.grants, g.grantId = job.grantId ∧ g.state = .pending) : Inv w' := by
  have hmem := List.mem_of_getElem? hpass
  have hlist : ∀ other ∈ job :: jobs, other ∈ w.listed :=
    fun other hoth => List.mem_flatMap.2 ⟨_, hmem, hoth⟩
  have hjob := h.listed job (hlist job List.mem_cons_self)
  -- a new document is that of the pending grant
  have hnew : ∀ file, job.action = .publish → job.route = some file →
      ∃ g ∈ w.tables.grants, g.route = file ∧ g.grantId = job.grantId ∧ g.state = .pending := by
    intro file hactn hrt
    obtain ⟨g, hg, hid, hst⟩ := hpend hactn
    obtain ⟨hfile, owner, hown, rfl⟩ := hjob.document file hrt
    obtain rfl := h.unique owner hown g hg (hfile.trans hid.symm)
    exact ⟨owner, hown, rfl, hid, hst⟩
  have hclosing : ∀ id ∈ w'.removed, Closing w.tables id ∧
      (id ∈ w.removed ∨ id = job.grantId ∧ job.action = .revoke ∧ done = true) := by
    intro id hid
    have hcase := removed_setPass
      (fun id => id = job.grantId ∧ job.action = .revoke ∧ done = true) hpasses (by
        intro new hnew other hoth
        cases hnew
        cases done with
        | false => cases hoth
        | true =>
          obtain ⟨hactn, hsame⟩ := Option.ite_none_right_eq_some.1 hoth
          exact ⟨(Option.some.inj hsame).symm, hactn, rfl⟩) id hid
    refine ⟨?_, hcase⟩
    rcases hcase with hold | ⟨rfl, hactn, -⟩
    · exact (h.removed id hold).1
    · exact hjob.closing hactn
  refine ⟨htab ▸ h.unique, ?_, ?_, ?_⟩
  · intro file hfile
    rw [htab]
    rcases mem_of_perform hrun hfile with hold | ⟨hactn, hrt⟩
    · exact h.owned file hold
    obtain ⟨g, hg, hrt, -, hst⟩ := hnew file hactn hrt
    refine ⟨g, hg, hrt, ?_⟩
    rw [hst]
    rfl
  · intro other hoth
    rw [htab]
    rcases listed_setPass (· ∈ jobs) hpasses (by
      intro new hnew known hkn
      cases hnew
      exact hkn) other hoth with hold | hkn
    · exact h.listed other hold
    · exact h.listed other (hlist other (.tail _ hkn))
  · intro id hid
    obtain ⟨hclosed, hcase⟩ := hclosing id hid
    rw [htab]
    refine ⟨hclosed, ?_⟩
    intro file hfile
    rcases hcase with hold | ⟨rfl, hactn, rfl⟩
    · rcases mem_of_perform hrun hfile with hbef | ⟨hactn, hrt⟩
      · exact (h.removed id hold).2 file hbef
      -- the new document belongs to a pending grant, the removed one to a closing one
      rintro rfl
      obtain ⟨g, hg, rfl, -, hst⟩ := hnew file hactn hrt
      obtain ⟨other, hoth, hsame, hclo⟩ := hclosed
      obtain rfl := h.unique other hoth g hg hsame
      rw [hst] at hclo
      rcases hclo with hclo | hclo <;> cases hclo
    · exact absent_of_perform hrun hactn file hfile

theorem Inv.effect (h : Inv w) (hok : Orderly w l) (heff : Effect codec key w l w') : Inv w' := by
  have hevol := heff.evolves h.unique
  cases heff with
  | withdrawn frame _ tables =>
    exact h.still frame.toStill hevol fun g hg _ hst => tables.kept hg hst
  | listed now files tables jobs removed drafts _ =>
    refine ⟨hevol.unique, ?_, ?_, ?_⟩
    · rw [files, tables]
      exact h.owned
    · intro job hjob
      rw [tables]
      rcases jobs job hjob with hold | hdue
      · exact h.listed job hold
      · exact listed_of_mem_dueJobs hdue
    · intro id hid
      rw [files, tables]
      exact h.removed id (removed id hid)
  | prepared _ _ _ _ _ _ files passes tables _ _ =>
    refine h.still (still_of_passes files passes) hevol ?_
    intro g hg _ hst
    exact ⟨g, tables.grants ▸ hg, rfl, hst⟩
  | stored _ _ _ _ files passes _ _ grants _ _ =>
    refine h.still (still_of_passes files passes) hevol ?_
    intro g hg _ hst
    exact ⟨g, grants ▸ List.mem_append_left _ hg, rfl, hst⟩
  | acknowledged _ _ _ _ _ files passes _ tables _ =>
    exact h.still (still_of_passes files passes) hevol
      fun g hg _ hst => tables.withdraws.kept hg hst
  | performed index now io job jobs rounds done label pass run tables passes _ _ =>
    refine h.performed pass run tables passes ?_
    intro hactn
    apply hok job
    rw [label]
    simp only [World.publication, pass, hactn, if_true, Option.mem_def]
  | published grantId frame tables =>
    exact h.still frame.toStill hevol fun g hg _ hst => tables.kept hg hst
  | revoked grantId now frame removed tables =>
    refine h.still frame.toStill hevol ?_
    intro g hg hfile hst
    -- the grant that is marked has no document
    have hoth : g.grantId ≠ grantId := (h.removed grantId removed).2 g.route hfile
    refine ⟨g, ?_, rfl, hst⟩
    rw [tables]
    refine List.mem_map.2 ⟨g, hg, ?_⟩
    simp [hoth]

theorem inv_initial (nid : NetworkId) (nodes : List RelayNode) : Inv (initial nid nodes) := by
  constructor
  · intro g hg
    cases hg
  · intro file hfile
    cases hfile
  · intro job hjob
    cases hjob
  · intro id hid
    cases hid

theorem inv_of_run {w : World} (h : (system codec config key).Run Orderly w) : Inv w := by
  apply Machine.Run.invariant (I := Inv) h
  · rintro _ ⟨nid, nodes, rfl⟩
    exact inv_initial nid nodes
  · intro a l b hinv hok hstep
    exact hinv.effect hok (step_effect hstep)

def Revoked (w : World) (route : SignedRelayRoute) : Prop :=
  ∃ g ∈ w.tables.grants, g.route = route ∧ g.state = .revoked

theorem Revoked.step (h : Revoked w route) (huniq : UniqueGrants w.tables)
    (heff : Effect codec key w l w') : Revoked w' route := by
  obtain ⟨g, hg, rfl, hst⟩ := h
  obtain ⟨g', hg', hrt, hmoves⟩ := (heff.evolves huniq).forward g hg
  exact ⟨g', hg', hrt, hmoves.revoked_stays hst⟩

/-- In a run in which every publication is carried out while its grant is pending, a grant that is
revoked stays so, and from then on its document is not in the directory. -/
theorem revoked_route_absent {w w' : World} {g : RelayGrant}
    (hrun : (system codec config key).Run Orderly w) (hg : g ∈ w.tables.grants)
    (hrevoked : g.state = .revoked) (hsteps : (system codec config key).Steps Orderly w w') :
    Revoked w' g.route ∧ ∀ file ∈ w'.files, file.header.grantId ≠ g.grantId := by
  have hinv : Inv w' := inv_of_run (hrun.trans hsteps)
  have hstays : Inv w' ∧ Revoked w' g.route := by
    apply Machine.Steps.preserves (P := fun w => Inv w ∧ Revoked w g.route) hsteps
    · rintro a l b ⟨hinv, hrevoked⟩ hok hstep
      have heffect := step_effect hstep
      exact ⟨hinv.effect hok heffect, hrevoked.step hinv.unique heffect⟩
    · exact ⟨inv_of_run hrun, g, hg, rfl, hrevoked⟩
  obtain ⟨-, last, hlast, hrt, hst⟩ := hstays
  refine ⟨⟨last, hlast, hrt, hst⟩, ?_⟩
  intro file hfile hid
  obtain ⟨owner, hown, rfl, hholds⟩ := hinv.owned file hfile
  have hsame : owner.grantId = last.grantId := by
    unfold RelayGrant.grantId
    rw [hrt]
    exact hid
  rw [hinv.unique owner hown last hlast hsame, hst] at hholds
  cases hholds

/-- Whatever else happens, a grant keeps its document and moves only forward, from pending to
published, revoking and revoked, and no other grant gets its identity. -/
theorem grants_move_forward {codec : RouteCodec} {config : RelayProvisioningConfig}
    {key : PublicKey} {w w' : World} (h : (system codec config key).Reachable w)
    (hsteps : (system codec config key).Steps (fun _ _ => True) w w') {g : RelayGrant}
    (hg : g ∈ w.tables.grants) : ∃ g' ∈ w'.tables.grants, g'.route = g.route ∧
      Relation.ReflTransGen Moves g.state g'.state ∧
      ∀ other ∈ w'.tables.grants, other.grantId = g.grantId → other = g' := by
  have huniq : UniqueGrants w.tables := by
    refine h.invariant (I := fun v => UniqueGrants v.tables) ?_
      fun _ _ _ hold _ hnext => ((step_effect hnext).evolves hold).unique
    rintro _ ⟨_, _, rfl⟩
    nofun
  have hkept : UniqueGrants w'.tables ∧ ∃ g' ∈ w'.tables.grants, g'.route = g.route ∧
      Relation.ReflTransGen Moves g.state g'.state := by
    refine hsteps.preserves (P := fun v => UniqueGrants v.tables ∧ ∃ g' ∈ v.tables.grants,
      g'.route = g.route ∧ Relation.ReflTransGen Moves g.state g'.state) ?_
      ⟨huniq, g, hg, rfl, .refl⟩
    rintro a l b ⟨hold, g', hg', hrt, hmoves⟩ - hnext
    have hevol := (step_effect hnext).evolves hold
    obtain ⟨last, hlast, hrt', hmove⟩ := hevol.forward g' hg'
    exact ⟨hevol.unique, last, hlast, hrt'.trans hrt, hmoves.tail hmove⟩
  obtain ⟨hlast, g', hg', hrt, hmoves⟩ := hkept
  refine ⟨g', hg', hrt, hmoves, fun other hoth hid => hlast other hoth g' hg' ?_⟩
  rw [hid, RelayGrant.grantId, RelayGrant.grantId, hrt]

/-! ### Two passes -/

open RelayRotation (plainCodec sampleConfig sampleStart issue startPass)

/-- A grant is published, revoked and removed. -/
theorem published_grant_revoked :
    ∃ w g, (system plainCodec sampleConfig 7).Run Orderly w ∧ g ∈ w.tables.grants ∧
      g.state = .revoked ∧ ∀ file ∈ w.files, file.header.grantId ≠ g.grantId := by
  obtain ⟨w, hrun, hall⟩ :=
    Machine.run_of_exec (M := system plainCodec sampleConfig 7) (s := sampleStart) Orderly
      (fun w => w.tables.grants.any (fun g => g.state = .revoked) = true)
      (issue 1 11 1 11 20000 1000 ++ startPass 0 1000
        ++ [.advance 0 1000 .success, .advance 0 1000 .success, .revoke 11#128 1001, .stop 0]
        ++ startPass 0 1001 ++ [.advance 0 1001 .success, .advance 0 1001 .success])
      ⟨_, _, rfl⟩ (by decide +kernel)
  obtain ⟨g, hg, hrevoked⟩ := List.any_eq_true.1 hall
  have hrevoked := of_decide_eq_true hrevoked
  exact ⟨w, g, hrun, hg, hrevoked, (revoked_route_absent hrun hg hrevoked .refl).2⟩

/-- A pending grant ends as revoked. -/
theorem pending_grant_moves : ∃ w v g g', (system plainCodec sampleConfig 7).Reachable w ∧
    (system plainCodec sampleConfig 7).Steps (fun _ _ => True) w v ∧ g ∈ w.tables.grants ∧
    g.state = .pending ∧ g' ∈ v.tables.grants ∧ g'.route = g.route ∧ g'.state = .revoked ∧
    Relation.ReflTransGen Moves g.state g'.state := by
  obtain ⟨w, v, hrun, hsteps, hpend, hrev⟩ := Machine.runs_of_exec
    (M := system plainCodec sampleConfig 7) (s := sampleStart) (fun _ _ => True)
    (fun w => ∃ g ∈ w.tables.grants, g.state = .pending)
    (fun v => ∀ g ∈ v.tables.grants, g.state = .revoked) (issue 1 11 1 11 20000 1000)
    (startPass 0 1000 ++ [.advance 0 1000 .success, .advance 0 1000 .success, .revoke 11#128 1001,
      .stop 0] ++ startPass 0 1001 ++ [.advance 0 1001 .success, .advance 0 1001 .success])
    ⟨_, _, rfl⟩ (by decide +kernel)
  obtain ⟨g, hg, hst⟩ := hpend
  obtain ⟨g', hg', hrt, hmoves, -⟩ := grants_move_forward hrun hsteps hg
  exact ⟨w, v, g, g', hrun, hsteps, hg, hst, hg', hrt, hrev g' hg', hmoves⟩

/-- A pass lists the publication of a grant. The grant is revoked, and a second pass removes its
document. Then the first pass publishes the document, and no job is due. -/
theorem revoked_route_published :
    ∃ w, (system plainCodec sampleConfig 7).Reachable w ∧ w.passes = [] ∧
      dueJobs w.tables 100000 = [] ∧
      ∃ g ∈ w.tables.grants, g.state = .revoked ∧ g.route ∈ w.files :=
  Machine.run_of_exec (M := system plainCodec sampleConfig 7) (s := sampleStart)
    (fun _ _ => True)
    (fun w => w.passes = [] ∧ dueJobs w.tables 100000 = [] ∧
      ∃ g ∈ w.tables.grants, g.state = .revoked ∧ g.route ∈ w.files)
    (issue 1 11 1 11 20000 1000 ++ startPass 0 1000 ++ [.revoke 11#128 1001] ++ startPass 1 1001
      ++ [.advance 1 1001 .success, .advance 1 1001 .success, .advance 0 1002 .success,
        .advance 0 1002 .success, .advance 0 1003 .success])
    ⟨_, _, rfl⟩ (by decide +kernel)

end RealityConsole.RelayProvisioning
