import RealityConsole.RelayProvisioning.Revocation

/-!
# Public ports

A port is chosen in the first transaction of an issue and taken in the second. Two issues
that overlap choose the same port, and both are stored: the index over the ports is not a
unique one.

If no issue starts while a header is being signed, no two grants hold the same port. Documents keep
apart too if none is put back into the directory after its grant was revoked.
-/

namespace RealityConsole.RelayProvisioning

open Framework Protocol Controller
open RelayRotation (plainCodec sampleConfig sampleLimits sampleHeader sampleStart issue startPass)

variable {codec : RouteCodec} {config : RelayProvisioningConfig} {key : PublicKey}

def ExclusivePorts (t : RelayTables) : Prop :=
  ∀ g ∈ t.grants, ∀ h ∈ t.grants, g.state.holdsPort = true → h.state.holdsPort = true →
    g.publicPort = h.publicPort → g = h

/-- No two documents in the directory name the same port. -/
def DistinctListeners (files : Files) : Prop :=
  ∀ a ∈ files, ∀ b ∈ files, a.header.publicPort = b.header.publicPort → a = b

/-- The node for which a step draws up a header. -/
def Label.prepares : Label → Option NodeId
  | .prepare node _ _ _ => some node
  | _ => none

/-- A header is drawn up while no other one is being signed. -/
def Alone (w : World) (l : Label) : Prop := l.prepares.isSome = true → w.drafts = []

instance (w : World) (l : Label) : Decidable (Alone w l) :=
  inferInstanceAs (Decidable (_ → _))

theorem Moves.holdsPort {s s' : RelayGrantState} (h : Moves s s') (hs : s'.holdsPort) :
    s.holdsPort := by
  cases h with
  | stays => exact hs
  | published => rfl
  | withdrawn hopen =>
    cases s with
    | pending => rfl
    | published => rfl
    | revoking => rfl
    | revoked => cases hopen
    | expired => cases hopen
  | revoked => cases hs

variable {t t' : RelayTables}

/-- Grants that hold a port keep to themselves when they move forward. -/
theorem ExclusivePorts.carries (h : ExclusivePorts t)
    (hcar : Carries t t') : ExclusivePorts t' := by
  intro a ha b hb haholds hbholds hport
  obtain ⟨g, hg, hga, hgmoves⟩ := hcar.backward ha
  obtain ⟨k, hk, hkb, hkmoves⟩ := hcar.backward hb
  unfold RelayGrant.publicPort at hport
  rw [hga, hkb] at hport
  have hsame := h g hg k hk (hgmoves.holdsPort haholds) (hkmoves.holdsPort hbholds) hport
  apply hcar.unique a ha b hb
  unfold RelayGrant.grantId
  rw [hga, hkb, hsame]

def FreePort (t : RelayTables) (port : Nat) : Prop :=
  ∀ g ∈ t.grants, g.state.holdsPort = true → g.publicPort ≠ port

theorem FreePort.carries {port : Nat} (h : FreePort t port)
    (hcar : Carries t t') : FreePort t' port := by
  intro a ha hholds
  obtain ⟨g, hg, hrt, hmoves⟩ := hcar.backward ha
  unfold RelayGrant.publicPort
  rw [hrt]
  exact h g hg (hmoves.holdsPort hholds)

theorem ExclusivePorts.append {new : RelayGrant} (h : ExclusivePorts t)
    (hfree : FreePort t new.publicPort) (hgrants : t'.grants = t.grants ++ [new]) :
    ExclusivePorts t' := by
  intro a ha b hb haholds hbholds hport
  rw [hgrants] at ha hb
  rcases List.mem_append.1 ha with ha | ha <;> rcases List.mem_append.1 hb with hb | hb
  · exact h a ha b hb haholds hbholds hport
  · rw [List.mem_singleton.1 hb] at hport
    exact absurd hport (hfree a ha haholds)
  · rw [List.mem_singleton.1 ha] at hport
    exact absurd hport.symm (hfree b hb hbholds)
  · rw [List.mem_singleton.1 ha, List.mem_singleton.1 hb]

/-- What holds in runs without overlapping issues. -/
structure PortInv (w : World) : Prop where
  unique : UniqueGrants w.tables
  ports : ExclusivePorts w.tables
  single : w.drafts.length ≤ 1
  free : ∀ header ∈ w.drafts, FreePort w.tables header.publicPort

theorem PortInv.effect {w w' : World} {l : Label} (h : PortInv w) (hok : Alone w l)
    (heff : Effect codec key w l w') : PortInv w' := by
  have hevol := heff.evolves h.unique
  rcases heff.carries h.unique with hcar | ⟨hdr, _, _, _, hdraft, hdrafts, -, -, hgrants⟩
  · refine ⟨hcar.unique, h.ports.carries hcar, ?_, ?_⟩
    · rcases heff.drafts with ⟨hsub, -⟩ | ⟨_, _, _, _, hdr, rfl, hnew, -⟩
      · exact hsub.length_le.trans h.single
      · rw [hnew, hok rfl]
        rfl
    · intro hdr hhead
      rcases heff.drafts with ⟨hsub, -⟩ | ⟨_, _, _, _, new, rfl, hnew, hdrafted⟩
      · exact (h.free hdr (hsub.subset hhead)).carries hcar
      rw [hnew, hok rfl] at hhead
      rw [List.mem_singleton.1 hhead]
      exact FreePort.carries hdrafted.free hcar
  · -- the hdr that is stored was the only one
    obtain ⟨other, hoth⟩ : ∃ other, w.drafts = [other] := List.length_eq_one_iff.1 (Nat.le_antisymm
      h.single (List.length_pos_iff.2 (List.ne_nil_of_mem hdraft)))
    have hsame : hdr = other := by
      rw [hoth] at hdraft
      exact List.mem_singleton.1 hdraft
    have hemp : w'.drafts = [] := by rw [hdrafts, hoth, hsame, List.erase_cons_head]
    refine ⟨hevol.unique, ?_, ?_, ?_⟩
    · apply h.ports.append _ hgrants
      exact h.free hdr hdraft
    · rw [hemp]
      exact Nat.zero_le _
    · intro hdr hhead
      rw [hemp] at hhead
      cases hhead

theorem portInv_initial (nid : NetworkId) (nodes : List RelayNode) :
    PortInv (initial nid nodes) := by
  refine ⟨?_, ?_, Nat.zero_le _, ?_⟩
  · intro g hg
    cases hg
  · intro g hg
    cases hg
  · intro hdr hhead
    cases hhead

theorem portInv_of_run {w : World} (h : (system codec config key).Run Alone w) : PortInv w := by
  apply Machine.Run.invariant (I := PortInv) h
  · rintro _ ⟨nid, nodes, rfl⟩
    exact portInv_initial nid nodes
  · intro a l b hinv hok hstep
    exact hinv.effect hok (step_effect hstep)

/-- Documents of grants that hold their ports do not share one. -/
theorem distinctListeners {w : World} (hinv : Inv w) (hports : PortInv w) :
    DistinctListeners w.files := by
  intro a ha b hb hport
  obtain ⟨g, hg, rfl, hgholds⟩ := hinv.owned a ha
  obtain ⟨k, hk, rfl, hkholds⟩ := hinv.owned b hb
  rw [hports.ports g hg k hk hgholds hkholds hport]

/-- Issues do not overlap, and a publication is carried out while its grant is pending. -/
def Undisturbed (w : World) (l : Label) : Prop := Alone w l ∧ Orderly w l

instance (w : World) (l : Label) : Decidable (Undisturbed w l) :=
  inferInstanceAs (Decidable (_ ∧ _))

/-- In undisturbed runs no two grants hold one port and no two documents claim one listener. -/
theorem relay_ports_exclusive {w : World} (hrun : (system codec config key).Run Undisturbed w) :
    ExclusivePorts w.tables ∧ DistinctListeners w.files := by
  have hports := portInv_of_run (hrun.imp fun _ _ h => h.1)
  have hinv := inv_of_run (hrun.imp fun _ _ h => h.2)
  exact ⟨hports.ports, distinctListeners hinv hports⟩

/-- Two nodes get their grants one after the other, and both documents are published. -/
theorem issued_ports_exclusive :
    ∃ w, (system plainCodec sampleConfig 7).Run Undisturbed w ∧
      w.tables.grants.length = 2 ∧ w.files.length = 2 ∧
      ExclusivePorts w.tables ∧ DistinctListeners w.files := by
  obtain ⟨w, hrun, hgrants, hfiles⟩ :=
    Machine.run_of_exec (M := system plainCodec sampleConfig 7)
      (s := sampleStart) Undisturbed
      (fun w => w.tables.grants.length = 2 ∧ w.files.length = 2)
      (issue 1 11 1 11 20000 1000 ++ issue 2 12 1 12 20001 1000 ++ startPass 0 1000
        ++ List.replicate 4 (.advance 0 1000 .success))
      ⟨_, _, rfl⟩ (by decide +kernel)
  exact ⟨w, hrun, hgrants, hfiles, relay_ports_exclusive hrun⟩

/-- Two nodes ask at the same time. Both headers are drawn up before the first is stored, so both
grants get the first port, and both are published. -/
theorem overlapping_issues_share_port :
    ∃ w, (system plainCodec sampleConfig 7).Reachable w ∧
      w.passes = [] ∧ ¬ExclusivePorts w.tables ∧ ¬DistinctListeners w.files := by
  obtain ⟨w, hrun, hpasses, ⟨g, hg, k, hk, hgholds, hkholds, hport, hne⟩, a, ha, b, hb, hlistener,
      hdiffer⟩ :=
    Machine.run_of_exec (M := system plainCodec sampleConfig 7)
      (s := sampleStart) (fun _ _ => True)
      (fun w => w.passes = [] ∧
        (∃ g ∈ w.tables.grants, ∃ k ∈ w.tables.grants, g.state.holdsPort = true ∧
          k.state.holdsPort = true ∧ g.publicPort = k.publicPort ∧ g ≠ k) ∧
        ∃ a ∈ w.files, ∃ b ∈ w.files, a.header.publicPort = b.header.publicPort ∧ a ≠ b)
      ([.ensure 1 sampleLimits 1000 1000,
          .ensure 2 sampleLimits 1000 1000,
          .prepare 1 sampleLimits ⟨11, 11, 11#128⟩ 1000,
          .prepare 2 sampleLimits ⟨12, 12, 12#128⟩ 1000,
          .store (sampleHeader 1 11 1 11 20000 1000) 1 2 1000,
          .store (sampleHeader 2 12 1 12 20000 1000) 3 4 1000]
        ++ startPass 0 1000 ++ List.replicate 5 (.advance 0 1000 .success))
      ⟨_, _, rfl⟩ (by decide)
  refine ⟨w, hrun, hpasses, ?_, ?_⟩
  · intro hexclusive
    exact hne (hexclusive g hg k hk hgholds hkholds hport)
  · intro hdistinct
    exact hdiffer (hdistinct a ha b hb hlistener)

end RealityConsole.RelayProvisioning
