import RealityConsole.Endpoints.Invariant

/-!
# Verified endpoints have evidence

A verified endpoint has a protocol canary behind it: an attempt that succeeded, claimed after the
candidate was announced, for its address and revision, with the canary that this revision lists and
that is still active. Whatever takes this away also takes the verification away.
-/

namespace RealityConsole.Endpoints

open Framework Protocol Controller

variable {s s' : EndpointStore} {w w' : World} {node : NodeId} {now : Nat}
  {key : NodeId × EndpointId} {row row' : CandidateRow} {identity : ControllerIdentity}
  {attempt : ProbeAttempt} {job : ProtocolCanaryJob} {credential : CanaryCredential}
  {lastSuccessAt expiresAt : Nat}

structure Supports (w : World) (key : NodeId × EndpointId) (row : CandidateRow)
    (lastSuccessAt expiresAt : Nat) (attempt : ProbeAttempt) (job : ProtocolCanaryJob)
    (credential : CanaryCredential) : Prop where
  recorded : attempt ∈ w.store.attempts
  phase : attempt.phase = .protocol
  /-- The attempt succeeded, and the verification lasts fifteen minutes from then. -/
  succeeded : ∃ resolved latency, attempt.status = .succeeded lastSuccessAt resolved latency
  lifetime : expiresAt = lastSuccessAt + verificationSeconds
  endpoint : attempt.nodeId = key.1 ∧ attempt.endpointId = key.2
  target : attempt.address = row.address ∧ attempt.port = row.port ∧
    attempt.appliedRevision = row.appliedRevision
  /-- It was claimed for a report no older than the one that announced the candidate. -/
  announced : row.verificationGeneration ≤ attempt.candidateGeneration
  /-- It was made with this job. -/
  issued : job ∈ w.jobs
  probe : job.probeId = attempt.probeId
  /-- The canary of the job is the one that the revision lists, and it is active. -/
  listed : w.store.revisionCanary key.1 row.appliedRevision = some credential
  active : credential.status = .active
  secret : credential.vlessUuid = job.vlessUuid

/-- Every verified endpoint has its evidence. -/
def Verified (w : World) : Prop :=
  ∀ key row lastSuccessAt latency expiresAt, w.store.candidates.find key = some row →
    w.store.verifications.find key = some (.verified lastSuccessAt latency expiresAt) →
      ∃ attempt job credential,
        Supports w key row lastSuccessAt expiresAt attempt job credential

/-! ### Canaries over time -/

theorem revisionCanary_evolves {rev : Nat} (h : Policy.Evolves s.policy s'.policy)
    (hle : rev ≤ s.policy.lastRevision) (hlist : s.revisionCanary node rev = some credential) :
    s'.revisionCanary node rev = some credential := by
  obtain ⟨id, hid, hfind⟩ := Option.bind_eq_some_iff.1 hlist
  refine Option.bind_eq_some_iff.2 ⟨id, (h.revisionCanaries node rev hle).trans hid, ?_⟩
  obtain ⟨rest, hrest⟩ := h.canaries
  rw [← hrest, List.find?_append, hfind]
  rfl

theorem find?_rotateCanary {canaries : List CanaryCredential} {fresh : FreshCanary}
    {other : NodeId} {id : CredentialId} (hne : other ≠ node)
    (h : canaries.find? (fun c => c.nodeId = other && c.credentialId = id) = some credential) :
    (rotateCanary canaries node fresh).find? (fun c => c.nodeId = other && c.credentialId = id)
      = some credential := by
  unfold rotateCanary
  rw [List.find?_append]
  suffices hmap : (canaries.map fun c => if c.nodeId = node ∧ c.status = .active
      then { c with status := .retired } else c).find?
        (fun c => c.nodeId = other && c.credentialId = id) = some credential by
    rw [hmap]
    rfl
  induction canaries with
  | nil => cases h
  | cons first rest ih =>
    rw [List.map_cons, List.find?_cons]
    rw [List.find?_cons] at h
    by_cases hfirst : first.nodeId = node ∧ first.status = .active
    · have hoth : ¬ first.nodeId = other := fun heq => hne (heq.symm.trans hfirst.1)
      simp only [hoth, decide_false, Bool.false_and] at h
      simp only [if_pos hfirst, hoth, decide_false, Bool.false_and]
      exact ih h
    · rw [if_neg hfirst]
      split at h
      · exact h
      · exact ih h

/-! ### What a step leaves -/

/-- What a step leaves of a candidate whose verification it leaves. -/
structure Persists (w w' : World) (key : NodeId × EndpointId) (row row' : CandidateRow) : Prop where
  found : w.store.candidates.find key = some row
  target : row'.address = row.address ∧ row'.port = row.port ∧
    row'.appliedRevision = row.appliedRevision
  announced : row'.verificationGeneration = row.verificationGeneration
  attempts : ∀ a ∈ w.store.attempts, ∃ a' ∈ w'.store.attempts, Kept a a'
  jobs : w.jobs ⊆ w'.jobs
  canary : ∀ credential, w.store.revisionCanary key.1 row.appliedRevision = some credential →
    w'.store.revisionCanary key.1 row.appliedRevision = some credential

theorem persists_quiet (hinv : Inv w.store) (hfound : w.store.candidates.find key = some row)
    (hatt : AttemptsGrow w.store.candidates w.store.attempts w'.store.attempts)
    (hpol : Policy.Evolves w.store.policy w'.store.policy) (hjobs : w.jobs ⊆ w'.jobs) :
    Persists w w' key row row where
  found := hfound
  target := ⟨rfl, rfl, rfl⟩
  announced := rfl
  attempts := hatt.kept
  jobs := hjobs
  canary _ := revisionCanary_evolves hpol (hinv.rows key row hfound).revision

/-- The canary of another node survives a rotation, and then the publication. -/
theorem persists_rotated {fresh : FreshCanary} {policy : PolicyStore} (hinv : Inv w.store)
    (hfound : w.store.candidates.find key = some row) (hne : key.1 ≠ node)
    (hevol : Policy.Evolves { w.store.policy with
      canaries := rotateCanary w.store.policy.canaries node fresh } policy) :
    Persists w (w.withStore { w.store.resetVerifications node with policy := policy }) key row
      row where
  found := hfound
  target := ⟨rfl, rfl, rfl⟩
  announced := rfl
  attempts a ha := ⟨a, ha, Kept.refl a⟩
  jobs := List.Subset.refl _
  canary := by
    intro credential hlist
    obtain ⟨id, hid, hfind⟩ := Option.bind_eq_some_iff.1 hlist
    apply revisionCanary_evolves (s := { w.store with policy := { w.store.policy with
      canaries := rotateCanary w.store.policy.canaries node fresh } }) hevol
      (hinv.rows key row hfound).revision
    exact Option.bind_eq_some_iff.2 ⟨id, hid, find?_rotateCanary hne hfind⟩

theorem persists_reported {heartbeat : EndpointHeartbeat} {record : NodeRecord}
    (hupd : Updated (reportedStore w.store node heartbeat record now) w'.store node
      heartbeat.endpoints heartbeat.heartbeatGeneration now) (hjobs : w'.jobs = w.jobs)
    (hfound : w.store.candidates.find key = some row)
    (htarget : row'.address = row.address ∧ row'.port = row.port ∧
      row'.appliedRevision = row.appliedRevision)
    (hann : row'.verificationGeneration = row.verificationGeneration) :
    Persists w w' key row row' where
  found := hfound
  target := htarget
  announced := hann
  attempts := by
    intro a ha
    exact ⟨_, hupd.attempts ▸ List.mem_map_of_mem ha, kept_ite⟩
  jobs := by
    rw [hjobs]
    exact List.Subset.refl _
  canary := by
    intro credential hlist
    unfold EndpointStore.revisionCanary
    rw [hupd.policy]
    exact hlist

variable {previous : Verification} {result : ProtocolCanaryResult}

theorem persists_recorded {claim : ProbeAttempt} (hfound : w.store.candidates.find key = some row) :
    Persists w (w.withStore (recordedStore w.store job claim previous result now)) key row row where
  found := hfound
  target := ⟨rfl, rfl, rfl⟩
  announced := rfl
  attempts := by
    intro a ha
    exact ⟨_, List.mem_map_of_mem ha, kept_ite⟩
  jobs := List.Subset.refl _
  canary _ hlist := hlist

/-- An endpoint that is verified after a step was so before, unchanged, or the step records a canary
of the present state. -/
theorem verified_cases {latency : Nat} (hinv : Inv w.store) (heff : Effect now w w')
    (hrow : w'.store.candidates.find key = some row') (hver : w'.store.verifications.find key
      = some (.verified lastSuccessAt latency expiresAt)) :
    (w.store.verifications.find key = some (.verified lastSuccessAt latency expiresAt) ∧
      ∃ row, Persists w w' key row row') ∨ ∃ job claim record credential previous, job ∈ w.jobs ∧
      Current w.store job now claim row' record credential ∧
      key = (job.nodeId, job.endpointId) ∧ lastSuccessAt = now ∧
      expiresAt = now + verificationSeconds ∧
      w' = w.withStore (recordedStore w.store job claim previous (.connected latency) now) := by
  cases heff with
  | quiet candidates verifications attempts policy jobs =>
    rw [candidates] at hrow
    rw [verifications] at hver
    exact .inl ⟨hver, row', persists_quiet hinv hrow attempts policy jobs⟩
  | rotated node fresh policy eq evolves =>
    subst eq
    replace hver : (w.store.verifications.update (EndpointStore.resetVerification node)).find
      key = some (.verified lastSuccessAt latency expiresAt) := hver
    rw [Table.find_update] at hver
    obtain ⟨v, hv, hreset⟩ := Option.map_eq_some_iff.1 hver
    unfold EndpointStore.resetVerification at hreset
    split at hreset
    · cases hreset
    rename_i hkept
    subst hreset
    have hne : key.1 ≠ node := fun heq => hkept ⟨heq, fun hv => by cases hv⟩
    exact .inl ⟨hv, row', persists_rotated hinv hrow hne evolves⟩
  | reported node heartbeat record accepts update jobs =>
    have hupd := hinv.updated accepts update
    rcases key_cases node heartbeat.endpoints key with hoth | ⟨c, hc, rfl⟩ | ⟨e, he, rfl⟩
    · obtain ⟨hsame, hvf⟩ := hupd.elsewhere key hoth
      exact .inl ⟨hvf.symm.trans hver, row',
        persists_reported hupd jobs (hsame.symm.trans hrow) ⟨rfl, rfl, rfl⟩ rfl⟩
    · cases hold : w.store.candidates.find (node, c.endpointId) with
      | none =>
        rw [(hupd.new c hc hold).2] at hver
        cases hver
      | some row =>
        obtain ⟨-, hkn, hvf⟩ := hupd.known c hc row hold
        obtain rfl := Option.mem_unique hkn hrow
        rw [hvf] at hver
        obtain ⟨v, hv, hkept⟩ := Option.map_eq_some_iff.1 hver
        split at hkept
        · cases hkept
        subst hkept
        -- a withdrawn candidate has no verification left to keep
        have hcur : ¬ row.withdrawnAt.isSome = true := by
          intro hwd
          cases hv.symm.trans ((hinv.rows _ row hold).withdrawn.2 hwd)
        exact .inl ⟨hv, row, persists_reported hupd jobs hold ⟨rfl, rfl, rfl⟩ (if_neg hcur)⟩
    · obtain ⟨hdropped, hvf⟩ := hupd.dropped e he
      obtain ⟨row, hold, rfl⟩ := Option.map_eq_some_iff.1 (hdropped.symm.trans hrow)
      rw [hvf, hold] at hver
      obtain ⟨v, -, hwd⟩ := Option.map_eq_some_iff.1 hver
      cases hwd
  | recorded job result claim row record credential previous issued cur verification
      verifiable eq =>
    subst eq
    replace hver : (w.store.verifications.updateAt (job.nodeId, job.endpointId) fun _ =>
      EndpointStore.protocolVerification now previous result).find key
        = some (.verified lastSuccessAt latency expiresAt) := hver
    rw [Table.find_updateAt] at hver
    by_cases hkey : key = (job.nodeId, job.endpointId)
    · subst hkey
      rw [if_pos rfl, verification] at hver
      obtain rfl := Option.mem_unique cur.found hrow
      cases result with
      | failed code => cases hver
      | connected time =>
        obtain ⟨rfl, rfl, rfl⟩ := Verification.verified.inj (Option.some.inj hver)
        exact .inr ⟨job, claim, record, credential, previous, issued, cur, rfl, rfl, rfl, rfl⟩
    · rw [if_neg hkey] at hver
      exact .inl ⟨hver, row', persists_recorded hrow⟩

/-! ### Evidence over time -/

/-- Evidence stays while the candidate and the canary stay. -/
theorem Supports.mono (h : Supports w key row lastSuccessAt expiresAt attempt job credential)
    (hpers : Persists w w' key row row') :
    Supports w' key row' lastSuccessAt expiresAt attempt job credential := by
  obtain ⟨resolved, latency, hstat⟩ := h.succeeded
  obtain ⟨kept, hmem, hkept⟩ := hpers.attempts attempt h.recorded
  obtain ⟨haddr, hport, hrev⟩ := hpers.target
  have hfinished : attempt.status ≠ .claimed := by
    rw [hstat]
    intro hclaim
    cases hclaim
  obtain rfl := hkept.finished hfinished
  exact { h with
    recorded := hmem
    target := by rw [haddr, hport, hrev]; exact h.target
    announced := by rw [hpers.announced]; exact h.announced
    issued := hpers.jobs h.issued
    listed := by rw [hrev]; exact hpers.canary _ h.listed }

theorem supports_recorded {claim : ProbeAttempt} {record : NodeRecord} {latency : Nat}
    (hinv : Inv w.store) (hiss : job ∈ w.jobs)
    (hcur : Current w.store job now claim row record credential) :
    Supports (w.withStore (recordedStore w.store job claim previous (.connected latency) now))
      (job.nodeId, job.endpointId) row now (now + verificationSeconds)
      { claim with status := .succeeded now job.resolvedAddress latency } job credential := by
  have hauth := hcur.authentic
  simp only [ProbeAttempt.authenticates, Bool.and_eq_true, decide_eq_true_eq] at hauth
  obtain ⟨⟨⟨⟨⟨⟨⟨⟨⟨-, hnode⟩, hendp⟩, hphase⟩, -⟩, hgen⟩, haddr⟩, hport⟩, hrev⟩, -⟩ := hauth
  obtain ⟨hrowAddress, hrowPort, hrrev⟩ := hcur.target
  exact {
    recorded := by
      refine List.mem_map.2 ⟨claim, hcur.mem, ?_⟩
      rw [if_pos rfl, ProbeAttempt.finish, if_pos hcur.claimed]
      rfl
    phase := hphase
    succeeded := ⟨_, _, rfl⟩
    lifetime := rfl
    endpoint := ⟨hnode, hendp⟩
    target := ⟨haddr.trans hrowAddress.symm, hport.trans hrowPort.symm,
      hrev.trans hrrev.symm⟩
    announced := by
      rw [hgen, ← hcur.generation]
      exact (hinv.rows _ row hcur.found).announced
    issued := hiss
    probe := hcur.probe.symm
    listed := by
      rw [hrrev]
      exact hcur.listed
    active := hcur.activeCanary
    secret := hcur.secret }

/-! ### Every run -/

theorem verified_effect (hinv : Inv w.store) (h : Verified w) (heff : Effect now w w') :
    Verified w' := by
  intro key row' lastSuccessAt latency expiresAt hrow hver
  rcases verified_cases hinv heff hrow hver with ⟨hold, row, hpers⟩ |
    ⟨job, claim, record, credential, previous, hiss, hcur, rfl, rfl, rfl, rfl⟩
  · obtain ⟨attempt, job, credential, hsupports⟩ :=
      h key row lastSuccessAt latency expiresAt hpers.found hold
    exact ⟨attempt, job, credential, hsupports.mono hpers⟩
  · exact ⟨_, job, credential, supports_recorded hinv hiss hcur⟩

theorem verified_of_run {ok : World → Label → Prop} (h : (system identity).Run ok w) :
    Verified w := by
  have hboth : Inv w.store ∧ Verified w := by
    apply h.invariant (I := fun w => Inv w.store ∧ Verified w)
    · rintro _ ⟨nid, controllerInstanceId, rfl⟩
      refine ⟨inv_emptyStore nid controllerInstanceId, ?_⟩
      intro key row lastSuccessAt latency expiresAt hrow
      cases hrow
    · rintro a label b ⟨hinv, hver⟩ - hnext
      have heff := effect_of_next hnext
      exact ⟨inv_effect hinv heff, verified_effect hinv hver heff⟩
  exact hboth.2

/-- A completion leaves the verifications alone unless it is about the present state. -/
theorem current_of_completion
    (h : next identity w (.completeProtocolCanary job result now) = some w') :
    w'.store.verifications = w.store.verifications ∨
      ∃ claim row record credential, Current w.store job now claim row record credential := by
  replace h : (if job ∈ w.jobs then _ else none) = some w' := h
  split at h
  · obtain ⟨⟨s', completion⟩, hs', rfl⟩ := Option.map_eq_some_iff.1 h
    rcases completeProtocolCanary_cases (toOption_some.1 hs') with ⟨-, rfl | ⟨claim, status, hfin⟩⟩
      | ⟨-, claim, row, record, credential, previous, hcur, -⟩
    · exact .inl rfl
    · obtain rfl := finishProbeAttempt_of_ok hfin
      exact .inl rfl
    · exact .inr ⟨claim, row, record, credential, hcur⟩
  · cases h

/-- In every reachable state a verified endpoint is current and has its evidence, and by a clock for
which the verification has not expired the canary succeeded within the lifetime; a step that
verifies one records a canary of the present state; every other completion leaves all
verifications. -/
theorem verified_endpoint_sound (h : (system identity).Reachable w) :
    (∀ key lastSuccessAt latency expiresAt,
      w.store.verifications.find key = some (.verified lastSuccessAt latency expiresAt) →
        ∃ row attempt job credential, w.store.candidates.find key = some row ∧
          row.withdrawnAt = none ∧
          Supports w key row lastSuccessAt expiresAt attempt job credential ∧
          ∀ now, now < expiresAt ↔ now < lastSuccessAt + verificationSeconds) ∧
    (∀ label w', (system identity).next w label = some w' → ∀ key lastSuccessAt latency expiresAt,
        w'.store.verifications.find key = some (.verified lastSuccessAt latency expiresAt) →
          w.store.verifications.find key = some (.verified lastSuccessAt latency expiresAt) ∨
          ∃ job claim row record credential, job ∈ w.jobs ∧ key = (job.nodeId, job.endpointId) ∧
            lastSuccessAt = label.time ∧
            Current w.store job label.time claim row record credential) ∧ (∀ job result now w',
      (system identity).next w (.completeProtocolCanary job result now) = some w' →
        w'.store.verifications = w.store.verifications ∨
          ∃ claim row record credential, Current w.store job now claim row record credential) := by
  have hinv := inv_of_run h
  refine ⟨?_, ?_, ?_⟩
  · intro key lastSuccessAt latency expiresAt hver
    obtain ⟨row, hrow⟩ := hinv.exists_row hver
    obtain ⟨attempt, job, credential, hsupports⟩ :=
      verified_of_run h key row lastSuccessAt latency expiresAt hrow hver
    refine ⟨row, attempt, job, credential, hrow, ?_, hsupports, fun _ => by rw [hsupports.lifetime]⟩
    have hnot : ¬ row.withdrawnAt.isSome = true := by
      intro hwd
      cases hver.symm.trans ((hinv.rows key row hrow).withdrawn.2 hwd)
    exact Option.not_isSome_iff_eq_none.1 hnot
  · intro label w' hnext key lastSuccessAt latency expiresAt hver
    have heffect := effect_of_next hnext
    obtain ⟨row, hrow⟩ := (inv_effect hinv heffect).exists_row hver
    rcases verified_cases hinv heffect hrow hver with ⟨hold, -⟩ |
      ⟨job, claim, record, credential, -, hiss, hcur, hkey, htime, -⟩
    · exact .inl hold
    · exact .inr ⟨job, claim, row, record, credential, hiss, hkey, htime, hcur⟩
  · intro job result now w' hnext
    replace hnext : next identity w (.completeProtocolCanary job result now) = some w' := hnext
    exact current_of_completion hnext

/-! ### A run -/

def plainHost : HostRow where
  displayName := "front"
  realityPublicKey := some "HE0oLhv0KHGTBM6WqX0VpJgXjYk0N2yCeTMjqbJxYhA"
  realityShortId := some "6ba85179e30d4fc2"
  runtimeState := none
  providerPaused := false
  lastSeenAt := none
  lastReport := none

def firstResult (state : RevisionResultState) : Label :=
  .policy (.recordRevisionResult 2 1
    { state := state, configDigest := some 9, startedAt := 0, completedAt := 0
      errorCode := none, rollbackRevision := none })

def plainCandidate (endpoint : EndpointId) : EndpointCandidate where
  endpointId := endpoint
  mode := .direct
  source := .manual
  address := "203.0.113.7"
  port := 443
  appliedRevision := 1
  observedAt := 0
  expiresAt := none

def plainHeartbeat (generation : Nat) (endpoints : List EndpointCandidate) :
    EndpointHeartbeat where
  heartbeatGeneration := generation
  state := .serving
  providerPaused := false
  revisions := ⟨some 1, some 1, some 1, some 1⟩
  telemetryCursor := 0
  agentVersion := "0.1.0"
  xrayVersion := none
  endpoints := endpoints

def joinRun : List Label :=
  [.enrollNode 2 plainHost (some Policy.plainConfiguration) Policy.plainDraws 100,
    firstResult .validated, firstResult .applied]

def plainSchedule : ProbeSchedule := ⟨30, 300, 60, 120, by decide⟩

def tcpJob : TcpProbeJob where
  probeId := 51
  runnerId := 50
  networkId := 1
  nodeId := 2
  endpointId := 9
  address := "203.0.113.7"
  port := 443
  appliedRevision := 1
  candidateGeneration := 1
  claimExpiresAt := 330
  claimToken := 61

def canaryJob : ProtocolCanaryJob where
  toTcpProbeJob := { tcpJob with probeId := 52, claimToken := 62, claimExpiresAt := 332 }
  resolvedAddress := .v4 0xCB007107
  vlessUuid := Uuid.text 42
  serverName := "www.reality-front.net"
  realityPublicKey := "HE0oLhv0KHGTBM6WqX0VpJgXjYk0N2yCeTMjqbJxYhA"
  realityShortId := "6ba85179e30d4fc2"

def probeRun : List Label :=
  [.recordHeartbeat 2 (plainHeartbeat 1 [plainCandidate 9]) 300,
    .claimTcpProbe ⟨51, 50, 61⟩ plainSchedule 300,
    .completeTcpProbe tcpJob (.connected (.v4 0xCB007107) 12) 301,
    .claimProtocolCanary ⟨52, 50, 62⟩ plainSchedule 302,
    .completeProtocolCanary canaryJob (.connected 40) 303]

/-- A candidate of an enrolled node is verified, by the canary at time 303; at time 1202 that is
within the lifetime. -/
theorem probed_endpoint_sound : ∃ w, (system Policy.plainIdentity).Reachable w ∧
    w.store.verifications.find (2, 9) = some (.verified 303 40 1203) ∧
    ∃ row attempt job credential, w.store.candidates.find (2, 9) = some row ∧
      row.withdrawnAt = none ∧ Supports w (2, 9) row 303 1203 attempt job credential ∧
      1202 < 303 + verificationSeconds := by
  obtain ⟨w, hrun, hver⟩ := Machine.run_of_exec (M := system Policy.plainIdentity) (fun _ _ => True)
    (fun w => w.store.verifications.find (2, 9) = some (.verified 303 40 1203)) (joinRun ++
    probeRun) ⟨1, 4, rfl⟩ (by decide +kernel)
  obtain ⟨row, attempt, job, credential, hrow, hlive, hsupports, hlife⟩ :=
    (verified_endpoint_sound hrun).1 _ _ _ _ hver
  exact ⟨w, hrun, hver, row, attempt, job, credential, hrow, hlive, hsupports,
    (hlife 1202).1 (by decide)⟩

/-- A heartbeat a day later leaves the endpoint verified by the canary at time 303. -/
theorem verified_after_expiry : ∃ w w', (system Policy.plainIdentity).Reachable w ∧
    (system Policy.plainIdentity).next w
      (.recordHeartbeat 2 (plainHeartbeat 2 [plainCandidate 9]) 86703) = some w' ∧
    w'.store.verifications.find (2, 9) = some (.verified 303 40 1203) := by
  obtain ⟨w, hrun, hlater⟩ := Machine.run_of_exec (M := system Policy.plainIdentity)
    (fun _ _ => True)
    (fun w => ((system Policy.plainIdentity).next w
        (.recordHeartbeat 2 (plainHeartbeat 2 [plainCandidate 9]) 86703)).bind
      (fun w' => w'.store.verifications.find (2, 9)) = some (.verified 303 40 1203))
    (joinRun ++ probeRun) ⟨1, 4, rfl⟩ (by decide +kernel)
  obtain ⟨w', hnext, hver⟩ := Option.bind_eq_some_iff.1 hlater
  exact ⟨w, w', hrun, hnext, hver⟩

/-! ### Documents over time -/

/-- A step neither changes nor removes a document; new ones have higher revisions. -/
theorem Effect.documents (h : Effect now w w') (hinv : Inv w.store) :
    w.store.policy.lastRevision ≤ w'.store.policy.lastRevision ∧
      ∀ node (revision : Nat), revision ≤ w.store.policy.lastRevision →
        w'.store.policy.documents.find (node, revision)
          = w.store.policy.documents.find (node, revision) := by
  cases h with
  | quiet _ _ _ policy => exact ⟨policy.last, policy.documents⟩
  | rotated _ _ _ eq evolves =>
    subst eq
    exact ⟨evolves.last, evolves.documents⟩
  | reported _ _ _ accepts update =>
    rw [(hinv.updated accepts update).policy]
    exact ⟨le_rfl, fun _ _ _ => rfl⟩
  | recorded _ _ _ _ _ _ _ _ _ _ _ eq =>
    subst eq
    exact ⟨le_rfl, fun _ _ _ => rfl⟩

/-- A published document stays as it is through every operation, heartbeat and probe, and the
revision that a node has applied has one, in canonical order. -/
theorem documents_immutable {ident : ControllerIdentity} (h : (system ident).Reachable w)
    (hsteps : (system ident).Steps (fun _ _ => True) w w') :
    (∀ key signed, w.store.policy.documents.find key = some signed →
      w'.store.policy.documents.find key = some signed) ∧
    ∀ node record revision, w'.store.policy.nodes.find node = some record →
      record.appliedRevision = some revision →
      ∃ signed, w'.store.policy.documents.find (node, revision) = some signed ∧
        DesiredXrayState.Ordered signed.document.xray := by
  have hinv := inv_of_run h
  refine ⟨fun key signed hfind => ?_, fun node record revision hfind happ => ?_⟩
  · have hkept : Inv w'.store ∧ (key.2 : Nat) ≤ w'.store.policy.lastRevision ∧
        w'.store.policy.documents.find key = some signed := by
      refine hsteps.preserves (P := fun v => Inv v.store ∧ (key.2 : Nat) ≤
        v.store.policy.lastRevision ∧ v.store.policy.documents.find key = some signed) ?_
        ⟨hinv, hinv.anchored.documents _ _ hfind, hfind⟩
      rintro a l b ⟨ha, hle, hold⟩ - hnext
      have heff := effect_of_next hnext
      obtain ⟨hlast, hdocs⟩ := heff.documents ha
      exact ⟨inv_effect ha heff, hle.trans hlast, (hdocs _ _ hle).trans hold⟩
    exact hkept.2.2
  · have hanch := (inv_of_run (h.trans hsteps)).anchored
    obtain ⟨signed, hsigned⟩ := Option.isSome_iff_exists.1 (hanch.applied_document hfind happ)
    exact ⟨signed, hsigned, hanch.ordered _ _ hsigned⟩

/-- A second node is enrolled. -/
theorem first_document_stays : ∃ w v signed, (system Policy.plainIdentity).Reachable w ∧
    (system Policy.plainIdentity).Steps (fun _ _ => True) w v ∧ v.store.policy.lastRevision = 2 ∧
    w.store.policy.documents.find (2, 1) = some signed ∧
    v.store.policy.documents.find (2, 1) = some signed := by
  obtain ⟨w, v, hrun, hsteps, hdoc, hlast⟩ := Machine.runs_of_exec
    (M := system Policy.plainIdentity)
    (fun _ _ => True) (fun w => (w.store.policy.documents.find (2, 1)).isSome)
    (fun v => v.store.policy.lastRevision = 2) joinRun
    [.enrollNode 3 plainHost (some Policy.plainConfiguration) Policy.plainDraws 200] ⟨1, 4, rfl⟩
    (by decide +kernel)
  obtain ⟨signed, hsigned⟩ := Option.isSome_iff_exists.1 hdoc
  exact ⟨w, v, signed, hrun, hsteps, hlast, hsigned, (documents_immutable hrun hsteps).1 _ _
    hsigned⟩

end RealityConsole.Endpoints
