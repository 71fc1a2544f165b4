import RealityConsole.Client.Service

/-!
# What a successful connect leaves behind

A selection that keeps the remembered node does not touch the supervisor. The key invariant: a
connected supervisor runs under the identity of the node that the selector remembers.
-/

namespace RealityConsole.Client

open Framework Protocol Supervisor

/-! ### Restarts -/

/-- A restart leaves the selection alone. It ends with the node's profile running in a new
generation, or it fails and nothing runs. -/
theorem restart_settled (node : NodeId) (mode : ProxyMode) (env : RuntimeEnvironment)
    (c : ConnectService) :
    (restart node mode env c).1.inner = c.inner ∧
      ((∃ profile, c.profileOf node = some profile
          ∧ (restart node mode env c).1.supervisor.Runs node.text profile mode
          ∧ (restart node mode env c).2 = .ok ()
          ∧ (restart node mode env c).1.supervisor.generation ≠ c.supervisor.generation)
        ∨ (∃ error, (restart node mode env c).2 = .error error
          ∧ (restart node mode env c).1.supervisor.Idle)) := by
  have hidle := c.supervisor.stop_idle env.stop
  unfold restart
  rcases hstop : stopSupervisor env.stop c with ⟨c₁, stopped⟩
  have hinn : c₁.inner = c.inner := congrArg (fun r => r.1.inner) hstop.symm
  have hsup : c₁.supervisor.Idle := by
    rw [← show (stopSupervisor env.stop c).1 = c₁ from congrArg Prod.fst hstop]
    exact hidle
  rcases stopped with error | state
  · -- the stop failed
    rw [Fallible.bind_of_error hstop]
    exact ⟨hinn, .inr ⟨error, rfl, hsup⟩⟩
  have hprofile : c₁.profileOf node = c.profileOf node := by
    unfold ConnectService.profileOf
    rw [hinn]
  rw [Fallible.bind_of_ok hstop, Fallible.bind_of_ok (show (Fallible.read : Operation _) c₁ = (c₁,
    .ok c₁) from rfl), hprofile]
  cases hprof : c.profileOf node with
  | none => exact ⟨hinn, .inr ⟨_, rfl, hsup⟩⟩
  | some profile =>
    dsimp only
    have hset := start_settled hsup node.text profile mode env.start
    rcases hbeg : c₁.supervisor.start node.text profile mode env.start with ⟨s, error | state⟩
    · -- the start failed
      have hrun : startSupervisor node.text profile mode env.start c₁
          = ({ c₁ with supervisor := s }, .error error) := by
        unfold startSupervisor
        rw [hbeg]
      rw [hbeg] at hset
      rw [Fallible.bind_of_error hrun]
      refine ⟨hinn, .inr ⟨error, rfl, ?_⟩⟩
      rcases hset with ⟨state, hok, -⟩ | ⟨_, -, hfail⟩
      · cases hok
      · exact hfail
    · have hrun : startSupervisor node.text profile mode env.start c₁
          = ({ c₁ with supervisor := s }, .ok state) := by
        unfold startSupervisor
        rw [hbeg]
      have hnext := start_generation hsup (congrArg Prod.snd hbeg)
      rw [hbeg] at hset hnext
      rw [Fallible.bind_of_ok hrun]
      refine ⟨hinn, .inl ⟨profile, rfl, ?_, rfl, ?_⟩⟩
      · rcases hset with ⟨_, -, hruns⟩ | ⟨_, herr, -⟩
        · exact hruns
        · cases herr
      · -- the counter wraps, but not after two steps
        replace hnext : s.generation = c₁.supervisor.nextGeneration := hnext
        show s.generation ≠ c.supervisor.generation
        have hstopped : c₁.supervisor.generation = c.supervisor.nextGeneration := by
          rw [← show (stopSupervisor env.stop c).1 = c₁ from congrArg Prod.fst hstop]
          exact stop_generation (congrArg Prod.snd hstop)
        unfold nextGeneration at hnext hstopped
        omega

/-! ### Applying a selection -/

/-- What `apply_selection` can do. -/
inductive Applied (now : Nat) (mode : ProxyMode) (force stopWhenUnavailable : Bool)
    (c : ConnectService) : ConnectService × Except ClientError SelectionDecision → Prop where
  /-- There is no bundle. -/
  | missing (error : ClientError) (hselector : c.inner.selector = none) :
    Applied now mode force stopWhenUnavailable c (c, .error error)
  /-- No node is selected, and Xray may have been stopped. -/
  | cleared (c' : ConnectService) (result : Except ClientError SelectionDecision)
    (hactive : c'.activeNode = none) :
    Applied now mode force stopWhenUnavailable c (c', result)
  /-- The selection keeps the remembered node, and nothing else happens. -/
  | kept (c' : ConnectService) (decision : SelectionDecision) (selector : NodeSelector)
    (hselector : c.inner.selector = some selector)
    (hmemory : (selector.select now).1.active = selector.active)
    (hactive : c'.activeNode = (selector.select now).1.active)
    (hsupervisor : c'.supervisor = c.supervisor) (hbundle : c'.inner.bundle = c.inner.bundle) :
    Applied now mode force stopWhenUnavailable c (c', .ok decision)
  /-- Xray was restarted with the profile of the selected node. -/
  | restarted (c' : ConnectService) (decision : SelectionDecision) (selector : NodeSelector)
    (node : NodeId) (profile : ConnectionProfile)
    (hselector : c.inner.selector = some selector)
    (hmoved : (selector.select now).1.active ≠ selector.active ∨ force = true)
    (hnode : (selector.select now).1.active = some node)
    (hactive : c'.activeNode = some node) (hbundle : c'.inner.bundle = c.inner.bundle)
    (hprofile : c.profileOf node = some profile)
    (hruns : c'.supervisor.Runs node.text profile mode) :
    Applied now mode force stopWhenUnavailable c (c', .ok decision)
  /-- The restart failed, and no Xray runs. -/
  | failed (c' : ConnectService) (error : ClientError) (hidle : c'.supervisor.Idle) :
    Applied now mode force stopWhenUnavailable c (c', .error error)

theorem applySelection_applied (now : Nat) (mode : ProxyMode) (force stopWhenUnavailable : Bool)
    (env : RuntimeEnvironment) (c : ConnectService) :
    Applied now mode force stopWhenUnavailable c
      (applySelection now mode force stopWhenUnavailable env c) := by
  unfold applySelection
  cases hsel : c.inner.selector with
  | none =>
    have hrun : decideSelection now c = (c, .error (connectError "connect_bundle_missing")) := by
      unfold decideSelection
      rw [hsel]
    rw [Fallible.bind_of_error hrun]
    exact .missing _ hsel
  | some selector =>
    have hreports := selector.select_reports now
    let c₁ : ConnectService := { c with inner := { c.inner with
      selector := some (selector.select now).1
      lastReason := some (selector.select now).2.reason } }
    have hrun : decideSelection now c = (c₁, .ok (selector.select now).2) := by
      unfold decideSelection
      rw [hsel]
    have hact : c₁.activeNode = (selector.select now).1.active := rfl
    rw [Fallible.bind_of_ok hrun]
    cases hnode : (selector.select now).2.nodeId with
    | none =>
      -- the selector has forgotten its node; Xray is stopped at most
      have hnone : c₁.activeNode = none := by rw [hact, ← hreports.node, hnode]
      dsimp only
      split
      · rcases hstop : stopSupervisor env.stop c₁ with ⟨c₂, error | state⟩
        · have hinn : c₂.inner = c₁.inner := congrArg (fun r => r.1.inner) hstop.symm
          rw [Fallible.bind_of_error hstop]
          exact .cleared _ _ (by rw [ConnectService.activeNode, hinn]; exact hnone)
        · have hinn : c₂.inner = c₁.inner := congrArg (fun r => r.1.inner) hstop.symm
          rw [Fallible.bind_of_ok hstop]
          exact .cleared _ _ (by rw [ConnectService.activeNode, hinn]; exact hnone)
      · exact .cleared _ _ hnone
    | some node =>
      have hsome : (selector.select now).1.active = some node := by rw [← hreports.node, hnode]
      dsimp only
      split
      · rename_i hmove
        obtain ⟨hinn, hset⟩ := restart_settled node mode env c₁
        have hmoved : (selector.select now).1.active ≠ selector.active ∨ force = true := by
          rcases (Bool.or_eq_true _ _).mp hmove with hchanged | hforce
          · exact .inl (hreports.changed.1 hchanged)
          · exact .inr hforce
        rcases hset with ⟨profile, hprof, hruns, hok, -⟩ | ⟨error, herr, hidle⟩
        · have hrestart : restart node mode env c₁ = ((restart node mode env c₁).1, .ok ()) :=
            Prod.ext rfl hok
          rw [Fallible.bind_of_ok hrestart]
          refine .restarted _ _ selector node profile hsel hmoved hsome ?_ ?_ hprof hruns
          · rw [ConnectService.activeNode, hinn]
            exact hsome
          · rw [hinn]
        · have hrestart : restart node mode env c₁ = ((restart node mode env c₁).1, .error error) :=
            Prod.ext rfl herr
          rw [Fallible.bind_of_error hrestart]
          exact .failed _ _ hidle
      · rename_i hmove
        have hunch : ¬(selector.select now).2.changed = true := by
          intro hchanged
          exact hmove (by rw [hchanged]; rfl)
        have hmemory := not_not.1 (mt hreports.changed.2 hunch)
        exact .kept _ _ selector hsel hmemory rfl rfl rfl

/-! ### The invariant -/

/-- A connected supervisor runs under the identity of the remembered node. -/
def Agrees (c : ConnectService) : Prop :=
  c.supervisor.state.phase = .connected → ∀ node, c.activeNode = some node →
    c.supervisor.state.activeProfileId = some node.text

theorem agrees_of_idle {c : ConnectService} (h : c.supervisor.Idle) : Agrees c :=
  fun hphase => absurd hphase h.phase_ne

variable {c c' : ConnectService}

/-- A change of the service that keeps the supervisor, and the remembered node or forgets it. -/
theorem Agrees.of_same (h : Agrees c) (hsup : c'.supervisor = c.supervisor)
    (hact : c'.activeNode = c.activeNode ∨ c'.activeNode = none) : Agrees c' := by
  intro hphase node hnode
  rw [hsup] at hphase ⊢
  rcases hact with hsame | hnone
  · exact h hphase node (hsame ▸ hnode)
  · rw [hnone] at hnode
    cases hnode

theorem keeps_stopSupervisor (env : StopEnvironment) : Fallible.Keeps Agrees (stopSupervisor env) :=
  fun c _ => agrees_of_idle (c.supervisor.stop_idle env)

theorem keeps_snapshotLocked : Fallible.Keeps Agrees snapshotLocked := fun _ h => h

theorem keeps_applySelection (now : Nat) (mode : ProxyMode) (force stopWhenUnavailable : Bool)
    (env : RuntimeEnvironment) :
    Fallible.Keeps Agrees (applySelection now mode force stopWhenUnavailable env) := by
  intro c h
  have happ := applySelection_applied now mode force stopWhenUnavailable env c
  rcases hres : applySelection now mode force stopWhenUnavailable env c with ⟨c', result⟩
  rw [hres] at happ
  cases happ with
  | missing error hsel => exact h
  | cleared c' result hact =>
    intro _ node hnode
    rw [show c'.activeNode = none from hact] at hnode
    cases hnode
  | kept c' decision selector hsel hmemory hact hsup hbun =>
    refine h.of_same hsup (.inl ?_)
    rw [hact, hmemory, ConnectService.activeNode, hsel]
    rfl
  | restarted c' decision selector node profile hsel hmoved hnode hact hbun hprof
      hruns =>
    intro _ other hoth
    rw [show c'.activeNode = some node from hact] at hoth
    cases hoth
    exact hruns.profileId
  | failed c' error hidle => exact agrees_of_idle hidle

theorem keeps_activateVerified (bundle : VerifiedBundle) :
    Fallible.Keeps Agrees (activateVerified bundle) := by
  intro c h
  unfold activateVerified
  split
  · exact h
  rename_i sel hsel
  refine h.of_same rfl ?_
  show sel.active = c.activeNode ∨ sel.active = none
  unfold selectorFor at hsel
  split at hsel
  · rename_i old hold
    rw [ConnectService.activeNode, hold]
    exact NodeSelector.reconcileBundle_active hsel
  · obtain ⟨_, hnew⟩ := rest_ok hsel
    obtain ⟨_, hnew⟩ := rest_ok hnew
    cases hnew
    exact .inr rfl

theorem keeps_probeNodesLocked (probe : NodeId → ProbeOutcome) :
    Fallible.Keeps Agrees (probeNodesLocked probe) := by
  intro c h
  unfold probeNodesLocked
  split
  · rename_i bundle sel hbun hsel
    refine h.of_same rfl (.inl ?_)
    show (sel.observeAll _).active = c.activeNode
    rw [NodeSelector.observeAll_active, ConnectService.activeNode, hsel]
    rfl
  · exact h

theorem keeps_forget : Fallible.Keeps Agrees forget := fun _ h => h.of_same rfl (.inr rfl)

/-! ### Every operation keeps it -/

theorem keeps_stopIfBundleExpired (now : Nat) (env : StopEnvironment) :
    Fallible.Keeps Agrees (stopIfBundleExpired now env) := by
  refine Fallible.keeps_read.bind fun c => ?_
  split
  · exact (keeps_stopSupervisor env).bind fun _ => Fallible.keeps_pure _
  · exact Fallible.keeps_pure _

theorem keeps_refreshBundleLocked (fetched : Fetched) :
    Fallible.Keeps Agrees (refreshBundleLocked fetched) := by
  refine (Fallible.keeps_ofExcept fetched).bind fun found => ?_
  cases found with
  | none => exact Fallible.keeps_pure _
  | some bundle => exact (keeps_activateVerified bundle).bind fun _ => Fallible.keeps_pure _

theorem keeps_apply_and_report (now : Nat) (mode : ProxyMode) (force stopWhenUnavailable : Bool)
    (env : RuntimeEnvironment) :
    Fallible.Keeps Agrees (do
      let _ ← applySelection now mode force stopWhenUnavailable env
      snapshotLocked) :=
  (keeps_applySelection now mode force stopWhenUnavailable env).bind fun _ => keeps_snapshotLocked

theorem keeps_selectAndConnect (call : ConnectCall) :
    Fallible.Keeps Agrees (selectAndConnect call) := by
  refine (keeps_stopIfBundleExpired call.wallNow call.env.stop).bind fun expired => ?_
  split
  · exact Fallible.keeps_fail _
  · exact (keeps_probeNodesLocked call.probe).bind fun _ => keeps_apply_and_report _ _ _ _ _

theorem keeps_maintainConnection (call : ConnectCall) :
    Fallible.Keeps Agrees (maintainConnection call) := by
  refine (keeps_stopIfBundleExpired call.wallNow call.env.stop).bind fun expired => ?_
  split
  · exact Fallible.keeps_fail _
  refine Fallible.keeps_read.bind fun c => ?_
  split
  · exact keeps_snapshotLocked
  · exact (keeps_probeNodesLocked call.probe).bind fun _ => keeps_apply_and_report _ _ _ _ _

theorem keeps_refreshBundle (fetched : Fetched) (call : ConnectCall) :
    Fallible.Keeps Agrees (refreshBundle fetched call) := by
  intro c h
  have hlocked := keeps_refreshBundleLocked fetched c h
  unfold refreshBundle
  rcases hfetch : refreshBundleLocked fetched c with ⟨c', error | modified⟩
  · rw [hfetch] at hlocked
    have hrefd : Fallible.Keeps Agrees (refuseRefresh call error) :=
      (keeps_stopIfBundleExpired call.wallNow call.env.stop).bind fun _ => Fallible.keeps_fail _
    exact hrefd c' hlocked
  rw [hfetch] at hlocked
  have happ : Fallible.Keeps Agrees
      (applyRefreshed c.supervisor.state call modified) := by
    unfold applyRefreshed
    split
    · exact keeps_snapshotLocked
    split
    · exact (keeps_probeNodesLocked call.probe).bind fun _ => keeps_apply_and_report _ _ _ _ _
    · exact keeps_apply_and_report _ _ _ _ _
  exact happ c' hlocked

theorem keeps_bootstrapBundle (fetched : Fetched) :
    Fallible.Keeps Agrees (bootstrapBundle fetched) := by
  refine (keeps_refreshBundleLocked fetched).bind fun _ => ?_
  refine keeps_snapshotLocked.bind fun snap => ?_
  split
  · exact Fallible.keeps_fail _
  · exact Fallible.keeps_pure _

theorem keeps_setSelectionMode (mode : SelectionMode) :
    Fallible.Keeps Agrees (setSelectionMode mode) := by
  intro c h
  unfold setSelectionMode
  cases hsel : c.inner.selector with
  | none => exact h.of_same rfl (.inr rfl)
  | some selector =>
    cases hmode : selector.setMode mode with
    | error error =>
      simp only [Option.mapM_some, hmode]
      exact h
    | ok changed =>
      -- the mode is the only field that changes
      obtain ⟨_, hset⟩ := rest_ok hmode
      simp only [Option.mapM_some, hmode]
      refine h.of_same rfl (.inl ?_)
      show changed.active = c.activeNode
      rw [ConnectService.activeNode, hsel, ← Except.ok.inj hset]
      rfl

theorem keeps_observeProbe (node : NodeId) (outcome : ProbeOutcome) :
    Fallible.Keeps Agrees (observeProbe node outcome) := by
  intro c h
  refine h.of_same rfl (.inl ?_)
  show (c.inner.selector.map fun sel => sel.observe node outcome).bind (·.active)
    = c.inner.selector.bind (·.active)
  cases c.inner.selector with
  | none => rfl
  | some sel => exact NodeSelector.observe_active sel node outcome

theorem keeps_logout (env : LogoutEnvironment) : Fallible.Keeps Agrees (logout env) := by
  unfold logout
  split
  · refine (keeps_stopSupervisor env.stop).bind fun _ => ?_
    refine (Fallible.keeps_ofExcept _).bind fun _ => ?_
    refine (Fallible.keeps_ofExcept _).bind fun _ => ?_
    refine keeps_forget.bind fun _ => keeps_snapshotLocked.bind fun _ => ?_
    split
    · exact Fallible.keeps_pure _
    · exact Fallible.keeps_fail _
  · exact Fallible.keeps_fail _

theorem keeps_abortSetup (env : LogoutEnvironment) : Fallible.Keeps Agrees (abortSetup env) := by
  refine (keeps_stopSupervisor env.stop).bind fun _ => ?_
  refine (Fallible.keeps_ofExcept _).bind fun _ => ?_
  exact (Fallible.keeps_ofExcept _).bind fun _ => keeps_forget

theorem step_agrees {label : Label} (h : Agrees c)
    (hstep : step c label = some c') : Agrees c' := by
  cases label with
  | xrayExit restore =>
    simp only [step, Option.ite_none_right_eq_some, Option.some.injEq] at hstep
    rw [← hstep.2]
    exact agrees_of_idle (handleTermination_idle c.supervisor restore)
  | restore recovered =>
    cases hstep
    exact ((keeps_refreshBundleLocked recovered).bind fun _ => keeps_snapshotLocked) c h
  | refreshBundle fetched call =>
    cases hstep
    exact keeps_refreshBundle fetched call c h
  | bootstrapBundle fetched =>
    cases hstep
    exact keeps_bootstrapBundle fetched c h
  | setSelectionMode mode =>
    cases hstep
    exact keeps_setSelectionMode mode c h
  | observeProbe node outcome =>
    cases hstep
    exact keeps_observeProbe node outcome c h
  | probeNodes probe =>
    cases hstep
    exact ((keeps_probeNodesLocked probe).bind fun _ => keeps_snapshotLocked) c h
  | connect call =>
    cases hstep
    exact keeps_selectAndConnect call c h
  | maintain call =>
    cases hstep
    exact keeps_maintainConnection call c h
  | stop env =>
    cases hstep
    exact ((keeps_stopSupervisor env).bind fun _ => keeps_snapshotLocked) c h
  | logout env =>
    cases hstep
    exact keeps_logout env c h
  | abortSetup env =>
    cases hstep
    exact keeps_abortSetup env c h

theorem agrees_of_reachable {c : ConnectService} (h : system.Reachable c) : Agrees c := by
  refine Machine.Run.invariant h ?_ fun a l b ha _ hstep => step_agrees ha hstep
  intro a ha hphase
  rw [show a = .new from ha] at hphase
  cases hphase

/-! ### The postcondition -/

/-- Xray runs with the profile of a node from the current bundle. -/
def ConnectedTo (c : ConnectService) (node : NodeId) (mode : ProxyMode) : Prop :=
  ∃ profile, c.profileOf node = some profile ∧ c.supervisor.Runs node.text profile mode

/-- The node that the selector chooses once the outcomes of a call's probes are in. -/
def ConnectService.nextNode (c : ConnectService) (call : ConnectCall) : Option NodeId :=
  ((probeNodesLocked call.probe c).1.inner.selector.map fun selector =>
    (selector.select call.monotonicNow).1).bind (·.active)

/-- The remembered node is the one that Xray serves, with its current profile. -/
structure Serves (c : ConnectService) (mode : ProxyMode) : Prop where
  phase : c.supervisor.state.phase = .connected
  mode : c.supervisor.state.mode = some mode
  profile : ∃ node profile, c.activeNode = some node ∧ c.profileOf node = some profile
    ∧ c.supervisor.child = some profile

/-- Probes change nothing but the health that the selector keeps. -/
theorem probeNodesLocked_same (probe : NodeId → ProbeOutcome) (c : ConnectService) :
    (probeNodesLocked probe c).1.supervisor = c.supervisor
      ∧ (probeNodesLocked probe c).1.inner.bundle = c.inner.bundle
      ∧ (probeNodesLocked probe c).1.activeNode = c.activeNode := by
  unfold probeNodesLocked
  split
  · rename_i bundle sel hbun hsel
    refine ⟨rfl, rfl, ?_⟩
    show (sel.observeAll _).active = c.activeNode
    rw [NodeSelector.observeAll_active, ConnectService.activeNode, hsel]
    rfl
  · exact ⟨rfl, rfl, rfl⟩

theorem selectAndConnect_ok {call : ConnectCall}
    {snap : ConnectSnapshot} (h : selectAndConnect call c = (c', .ok snap)) :
    snap.selectedNodeId = c'.activeNode ∧ ∃ dec,
      applySelection call.monotonicNow call.proxyMode false true call.env
        (probeNodesLocked call.probe c).1 = (c', .ok dec) := by
  obtain ⟨c₁, expired, hexpd, h⟩ := Fallible.bind_ok.1 h
  cases expired with
  | true => cases h
  | false =>
    have hsame : c₁ = c := by
      obtain ⟨c₀, read, hread, hrest⟩ := Fallible.bind_ok.1 hexpd
      cases hread
      split at hrest
      · obtain ⟨_, _, -, hpure⟩ := Fallible.bind_ok.1 hrest
        cases (Fallible.pure_ok.1 hpure).2
      · exact (Fallible.pure_ok.1 hrest).1
    obtain ⟨c₂, _, hprobe, h⟩ := Fallible.bind_ok.1 h
    obtain ⟨c₃, dec, happly, h⟩ := Fallible.bind_ok.1 h
    cases h
    rw [hsame] at hprobe
    rw [show (probeNodesLocked call.probe c).1 = c₂ from congrArg Prod.fst hprobe]
    exact ⟨rfl, dec, happly⟩

/-- A successful connect leaves the selected node's profile running exactly if the selection moves
away from the remembered node, or that node's current profile runs already in the requested mode. -/
theorem connect_postcondition_iff {call : ConnectCall} {c c' : ConnectService}
    {snapshot : ConnectSnapshot} {node : NodeId} (hreach : system.Reachable c)
    (hcall : selectAndConnect call c = (c', .ok snapshot))
    (hselected : snapshot.selectedNodeId = some node) :
    ConnectedTo c' node call.proxyMode
      ↔ c.nextNode call ≠ c.activeNode ∨ Serves c call.proxyMode := by
  obtain ⟨hsnapshot, decision, happly⟩ := selectAndConnect_ok hcall
  obtain ⟨hsupervisor₁, hbun₁, hactive₁⟩ := probeNodesLocked_same call.probe c
  have hagrees := agrees_of_reachable hreach
  have hnode : c'.activeNode = some node := by rw [← hsnapshot, hselected]
  have happ := applySelection_applied call.monotonicNow call.proxyMode false true call.env
    (probeNodesLocked call.probe c).1
  rw [happly] at happ
  cases happ with
  | cleared c' result hactive =>
    rw [hactive] at hnode
    cases hnode
  | kept c' decision selector hselector hmemory hactive hsupervisor hbun =>
    -- nothing is started: what runs afterwards ran before
    have hremembered : c.activeNode = some node := by
      rw [← hactive₁, ConnectService.activeNode, hselector]
      show selector.active = some node
      rw [← hmemory, ← hactive, hnode]
    have hnext : c.nextNode call = c.activeNode := by
      rw [ConnectService.nextNode, hselector, hremembered]
      show (selector.select call.monotonicNow).1.active = some node
      rw [← hactive, hnode]
    have hprofiles : c'.profileOf node = c.profileOf node := by
      rw [ConnectService.profileOf, hbun, hbun₁]
      rfl
    have hsame : c'.supervisor = c.supervisor := hsupervisor.trans hsupervisor₁
    constructor
    · rintro ⟨profile, hprofile, hruns⟩
      rw [hsame] at hruns
      exact .inr ⟨hruns.phase, hruns.mode, node, profile, hremembered, hprofiles ▸ hprofile,
        hruns.child⟩
    · intro hcond
      rcases hcond with hmoved | hserv
      · exact absurd hnext hmoved
      obtain ⟨other, profile, hoth, hprofile, hchild⟩ := hserv.profile
      obtain rfl : other = node := Option.mem_unique hoth hremembered
      refine ⟨profile, hprofiles.trans hprofile, ?_⟩
      rw [hsame]
      exact ⟨hserv.phase, hagrees hserv.phase other hremembered, hserv.mode, hchild⟩
  | restarted c' decision selector other profile hselector hmoved hoth hactive hbun hprofile
      hruns =>
    obtain rfl : other = node := Option.mem_unique hactive hnode
    have hchanged : (selector.select call.monotonicNow).1.active ≠ selector.active := by
      rcases hmoved with hchanged | hforce
      · exact hchanged
      · cases hforce
    constructor
    · intro _
      refine .inl ?_
      rw [← hactive₁, ConnectService.nextNode, ConnectService.activeNode, hselector]
      exact hchanged
    · intro _
      refine ⟨profile, ?_, hruns⟩
      rw [← hprofile, ConnectService.profileOf, hbun]
      rfl

/-! ### A client with one node -/

def sampleNodeProfile : NodeProfile where
  nodeId := 2
  credentialId := 3
  displayName := "Attic"
  region := none
  endpoint := ⟨.direct, "198.51.100.4", 443⟩
  connection := ⟨Uuid.text 5, "xtls-rprx-vision", "www.reality-front.net", "chrome",
    "AAAAAAAAAAAAAAAAAAAAAAAAAAAAAAAAAAAAAAAAAAA", "0123456789abcdef", "/"⟩

def sampleBundle : VerifiedBundle :=
  let payload : EncryptedProfilePayload := ⟨2, 9, ⟨1, 6, 7, 8, 1, 2⟩, sampleNodeProfile⟩
  let manifest : ProfileBundleManifest :=
    { schemaVersion := 1, formatVersion := 1, bundleId := 8, networkId := 1, userId := 6
      deviceId := 7, signingKeyId := ⟨4⟩, controllerInstanceId := 10, generation := 1
      issuedAt := 1000, notBefore := 1000, refreshAfter := 22600, offlineExpiresAt := 605800
      minClientVersion := "0.1.0", accountStatus := .active
      profiles := [⟨2, "Attic", none, .direct, payload, 100⟩]
      selectionHints := ⟨60, 20, 3⟩ }
  { signed := ⟨manifest, [payload], ⟨4, manifest, [payload]⟩⟩
    profiles := [(2, ⟨2, .direct, "Attic", "198.51.100.4", 443, 5, "xtls-rprx-vision",
      "www.reality-front.net", "chrome", "AAAAAAAAAAAAAAAAAAAAAAAAAAAAAAAAAAAAAAAAAAA",
      "0123456789abcdef", "/"⟩)]
    etag := none }

def sampleInstalled : ConnectService := (bootstrapBundle (.ok (some sampleBundle)) .new).1

/-- A connect in manual proxy mode while nothing goes wrong. -/
def sampleCall : ConnectCall where
  wallNow := 2000
  monotonicNow := 0
  proxyMode := .manual
  probe := fun _ => .healthy 5000000
  env := ⟨⟨.ok (), .ok ()⟩, ⟨.ok (), none, .ready, .ok (), .ok ()⟩⟩

theorem reachable_sampleInstalled : system.Reachable sampleInstalled :=
  ⟨.new, rfl, .single
    ⟨.bootstrapBundle (.ok (some sampleBundle)), trivial, rfl⟩⟩

/-- The node that a call reports, if it returns. -/
def reportedNode (result : ConnectService × Except ClientError ConnectSnapshot) :
    Option NodeId :=
  result.2.toOption.bind (·.selectedNodeId)

theorem returns_of_reportedNode (result : ConnectService × Except ClientError ConnectSnapshot)
    (node : NodeId) (h : reportedNode result = some node) :
    ∃ snap, result = (result.1, .ok snap) ∧ snap.selectedNodeId = some node := by
  obtain ⟨snap, hsnap, hnode⟩ := Option.bind_eq_some_iff.1 h
  exact ⟨snap, Prod.ext rfl (toOption_some.1 hsnap), hnode⟩

/-- The first connect after the installation moves to the node and starts it. -/
theorem first_connect_connects :
    ∃ snapshot, selectAndConnect sampleCall sampleInstalled
        = ((selectAndConnect sampleCall sampleInstalled).1, .ok snapshot)
      ∧ snapshot.selectedNodeId = some 2
      ∧ ConnectedTo (selectAndConnect sampleCall sampleInstalled).1 2 .manual := by
  obtain ⟨snapshot, hcall, hselected⟩ := returns_of_reportedNode
    (selectAndConnect sampleCall sampleInstalled) 2 (by decide)
  refine ⟨snapshot, hcall, hselected, ?_⟩
  exact (connect_postcondition_iff reachable_sampleInstalled hcall hselected).mpr (.inl (by decide))

/-- After a stop the selector still remembers the node, so the next connect returns the node as
selected and starts nothing. -/
theorem connect_after_stop_not_connected :
    ∃ c call snapshot, system.Reachable c
      ∧ selectAndConnect call c = ((selectAndConnect call c).1, .ok snapshot)
      ∧ snapshot.selectedNodeId = some 2
      ∧ ¬ConnectedTo (selectAndConnect call c).1 2 call.proxyMode := by
  let stopped : ConnectService :=
    (stop sampleCall.env.stop (selectAndConnect sampleCall sampleInstalled).1).1
  have hreach : system.Reachable stopped := by
    have hconnect : system.StepWhen (fun _ _ => True) sampleInstalled
        (selectAndConnect sampleCall sampleInstalled).1 := ⟨.connect sampleCall, trivial, rfl⟩
    have hstop : system.StepWhen (fun _ _ => True) (selectAndConnect sampleCall sampleInstalled).1
      stopped := ⟨.stop sampleCall.env.stop, trivial, rfl⟩
    exact Machine.Run.trans reachable_sampleInstalled
      ((Relation.ReflTransGen.single hconnect).tail hstop)
  obtain ⟨snapshot, hcall, hselected⟩ := returns_of_reportedNode
    (selectAndConnect sampleCall stopped) 2 (by decide)
  refine ⟨stopped, sampleCall, snapshot, hreach, hcall, hselected, ?_⟩
  rintro ⟨profile, -, hruns⟩
  have hphase : (selectAndConnect sampleCall stopped).1.supervisor.state.phase = .disconnected := by
    decide
  rw [hruns.phase] at hphase
  cases hphase

end RealityConsole.Client
