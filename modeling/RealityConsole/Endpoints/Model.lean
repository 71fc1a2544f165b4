import RealityConsole.Controller.Probes
import RealityConsole.Endpoints.Effect
import RealityConsole.Policy.Evolution

/-!
# Endpoints, probes and heartbeats as a machine

The controller over its policy and endpoint tables, with the protocol canaries handed to runners,
who may hand a job back at any time, more than once or never. What a step can do is said once, by
`Effect`.
-/

namespace RealityConsole.Endpoints

open Framework Protocol Controller

structure World where
  store : EndpointStore
  /-- Every job that a claim has returned. -/
  jobs : List ProtocolCanaryJob

/-- The operations on endpoints, and those of the policy tables. -/
inductive Label where
  | policy (label : Policy.Label)
  | enrollNode (node : NodeId) (host : HostRow)
      (configuration : Option DesiredStateConfigurationDraft) (draws : Draws) (now : Nat)
  | rotateProtocolCanary (node : NodeId) (draws : Draws) (now : Nat)
  | recordHeartbeat (node : NodeId) (heartbeat : EndpointHeartbeat) (now : Nat)
  | claimTcpProbe (fresh : FreshClaim) (schedule : ProbeSchedule) (now : Nat)
  | completeTcpProbe (job : TcpProbeJob) (result : TcpProbeResult) (now : Nat)
  | claimProtocolCanary (fresh : FreshClaim) (schedule : ProbeSchedule) (now : Nat)
  | completeProtocolCanary (job : ProtocolCanaryJob) (result : ProtocolCanaryResult) (now : Nat)

/-- The operations of the policy tables that have no part in the endpoint tables. -/
def isPolicyOnly : Policy.Label → Bool
  | .enrollNode .. | .rotateProtocolCanary .. | .recordHeartbeat .. => false
  | _ => true

def World.withStore (w : World) (store : EndpointStore) : World := { w with store := store }

variable (identity : ControllerIdentity)

def next (w : World) : Label → Option World
  | .policy label =>
    if isPolicyOnly label then
      (Policy.perform identity w.store.policy label).toOption.map fun policy =>
        w.withStore { w.store with policy := policy }
    else none
  | .enrollNode node host configuration draws now =>
    (w.store.enrollNode identity node host configuration draws now).toOption.map w.withStore
  | .rotateProtocolCanary node draws now =>
    (w.store.rotateProtocolCanary identity node draws now).toOption.map w.withStore
  | .recordHeartbeat node heartbeat now =>
    (w.store.recordHeartbeat identity.key node heartbeat now).toOption.map fun answer =>
      w.withStore answer.1
  | .claimTcpProbe fresh schedule now =>
    (w.store.claimTcpProbe fresh schedule now).toOption.map fun claim => w.withStore claim.1
  | .completeTcpProbe job result now =>
    (w.store.completeTcpProbe job result now).toOption.map fun completion =>
      w.withStore completion.1
  | .claimProtocolCanary fresh schedule now =>
    (w.store.claimProtocolCanary fresh schedule now).toOption.map fun claim =>
      ⟨claim.1, claim.2.toList ++ w.jobs⟩
  | .completeProtocolCanary job result now =>
    if job ∈ w.jobs then
      (w.store.completeProtocolCanary job result now).toOption.map fun completion =>
        w.withStore completion.1
    else none

def emptyStore (networkId : NetworkId) (controllerInstanceId : ControllerInstanceId) :
    EndpointStore :=
  ⟨Policy.emptyStore networkId controllerInstanceId, [], [], [], []⟩

def system : Machine World Label where
  init w := ∃ networkId controllerInstanceId, w = ⟨emptyStore networkId controllerInstanceId, []⟩
  next := next identity

variable {identity} {s s' : EndpointStore} {w w' : World} {node : NodeId} {now : Nat}

/-! ### Attempts over time -/

structure AttemptsGrow (candidates : Table (NodeId × EndpointId) CandidateRow)
    (attempts attempts' : List ProbeAttempt) : Prop where
  kept : ∀ a ∈ attempts, ∃ a' ∈ attempts', Kept a a'
  /-- An attempt is an old one, or it is made for the last report of a candidate. -/
  made : ∀ a' ∈ attempts', (∃ a ∈ attempts, Kept a a') ∨ ∃ entry ∈ candidates,
    a'.nodeId = entry.1.1 ∧ a'.candidateGeneration = entry.2.lastReportGeneration

section Attempts

variable {candidates : Table (NodeId × EndpointId) CandidateRow}
  {attempts attempts' : List ProbeAttempt}

theorem attemptsGrow_map {f : ProbeAttempt → ProbeAttempt} (h : ∀ a, Kept a (f a)) :
    AttemptsGrow candidates attempts (attempts.map f) := by
  constructor
  · intro a ha
    exact ⟨f a, List.mem_map_of_mem ha, h a⟩
  · intro a' ha'
    obtain ⟨a, ha, rfl⟩ := List.mem_map.1 ha'
    exact .inl ⟨a, ha, h a⟩

theorem AttemptsGrow.refl (candidates : Table (NodeId × EndpointId) CandidateRow)
    (attempts : List ProbeAttempt) : AttemptsGrow candidates attempts attempts :=
  ⟨fun a ha => ⟨a, ha, Kept.refl a⟩, fun a ha => .inl ⟨a, ha, Kept.refl a⟩⟩

theorem kept_ite {a : ProbeAttempt} {condition : Prop} [Decidable condition]
    {status : ProbeStatus} : Kept a (if condition then a.finish status else a) := by
  split
  · exact kept_finish a status
  · exact Kept.refl a

theorem AttemptsGrow.cons (h : AttemptsGrow candidates attempts attempts') {a : ProbeAttempt}
    {entry : (NodeId × EndpointId) × CandidateRow} (hent : entry ∈ candidates)
    (hnode : a.nodeId = entry.1.1) (hgen : a.candidateGeneration = entry.2.lastReportGeneration) :
    AttemptsGrow candidates attempts (a :: attempts') := by
  constructor
  · intro b hb
    obtain ⟨b', hb', hkept⟩ := h.kept b hb
    exact ⟨b', .tail _ hb', hkept⟩
  · intro b hb
    rcases List.mem_cons.1 hb with rfl | hrest
    · exact .inr ⟨entry, hent, hnode, hgen⟩
    · exact h.made b hrest

end Attempts

/-! ### What a step can do -/

def heard (heartbeat : NodeHeartbeat) (record : NodeRecord) : NodeRecord :=
  { record with
    reportedDesiredRevision := heartbeat.revisions.desiredRevision
    telemetryCursor := heartbeat.telemetryCursor
    lastHeartbeatGeneration := heartbeat.heartbeatGeneration
    lastHeartbeat := some heartbeat }

/-- The tables before the candidates of a new heartbeat are taken in. -/
def reportedStore (s : EndpointStore) (node : NodeId) (heartbeat : EndpointHeartbeat)
    (record : NodeRecord) (now : Nat) : EndpointStore :=
  { s with
    policy := { s.policy with
      nodes := s.policy.nodes.updateAt node fun _ => heard heartbeat.toNodeHeartbeat record }
    hosts := s.hosts.updateAt node (HostRow.reported heartbeat now) }

/-- The conditions on a heartbeat that do not depend on its candidates. -/
structure Accepts (s : EndpointStore) (node : NodeId) (heartbeat : EndpointHeartbeat)
    (record : NodeRecord) : Prop where
  valid : heartbeat.validate = .ok ()
  found : s.policy.nodes.find node = some record
  mayReport : record.status.mayReport = true
  newer : record.lastHeartbeatGeneration < heartbeat.heartbeatGeneration
  progress : record.validateReportedProgress heartbeat.toNodeHeartbeat = .ok ()

structure Current (s : EndpointStore) (job : ProtocolCanaryJob) (now : Nat)
    (claim : ProbeAttempt) (row : CandidateRow) (record : NodeRecord)
    (credential : CanaryCredential) : Prop where
  mem : claim ∈ s.attempts
  probe : claim.probeId = job.probeId
  authentic : claim.authenticates .protocol job.toTcpProbeJob = true
  claimed : claim.status = .claimed
  unexpired : now < claim.claimExpiresAt
  found : s.candidates.find (job.nodeId, job.endpointId) = some row
  target : row.address = job.address ∧ row.port = job.port ∧
    row.appliedRevision = job.appliedRevision
  generation : row.lastReportGeneration = job.candidateGeneration
  current : row.withdrawnAt = none
  unexpiredRow : EndpointStore.unexpired row now = true
  node : s.policy.nodes.find job.nodeId = some record
  active : record.status = .active
  applied : record.appliedRevision = some job.appliedRevision
  heard : record.lastHeartbeatGeneration = job.candidateGeneration
  listed : s.revisionCanary job.nodeId job.appliedRevision = some credential
  activeCanary : credential.status = .active
  secret : credential.vlessUuid = job.vlessUuid

def recordedStore (s : EndpointStore) (job : ProtocolCanaryJob) (claim : ProbeAttempt)
    (previous : Verification) (result : ProtocolCanaryResult) (now : Nat) : EndpointStore :=
  { s with
    attempts := s.attempts.map fun attempt =>
      if attempt.probeId = claim.probeId
      then attempt.finish (EndpointStore.protocolStatus job now result) else attempt
    verifications := s.verifications.updateAt (job.nodeId, job.endpointId) fun _ =>
      EndpointStore.protocolVerification now previous result }

inductive Effect (now : Nat) (w w' : World) : Prop where
  /-- Candidates and verifications stay. -/
  | quiet (candidates : w'.store.candidates = w.store.candidates)
      (verifications : w'.store.verifications = w.store.verifications)
      (attempts : AttemptsGrow w.store.candidates w.store.attempts w'.store.attempts)
      (policy : Policy.Evolves w.store.policy w'.store.policy) (jobs : w.jobs ⊆ w'.jobs)
  | rotated (node : NodeId) (fresh : FreshCanary) (policy : PolicyStore)
      (eq : w' = w.withStore { w.store.resetVerifications node with policy := policy })
      (evolves : Policy.Evolves { w.store.policy with
        canaries := rotateCanary w.store.policy.canaries node fresh } policy)
  /-- A new heartbeat is taken in. -/
  | reported (node : NodeId) (heartbeat : EndpointHeartbeat) (record : NodeRecord)
      (accepts : Accepts w.store node heartbeat record)
      (update : (reportedStore w.store node heartbeat record now).recordEndpointCandidates node
        heartbeat.endpoints heartbeat.heartbeatGeneration now = .ok w'.store)
      (jobs : w'.jobs = w.jobs)
  | recorded (job : ProtocolCanaryJob) (result : ProtocolCanaryResult) (claim : ProbeAttempt)
      (row : CandidateRow) (record : NodeRecord) (credential : CanaryCredential)
      (previous : Verification) (issued : job ∈ w.jobs)
      (current : Current w.store job now claim row record credential)
      (verification : w.store.verifications.find (job.nodeId, job.endpointId) = some previous)
      (verifiable : previous ≠ .withdrawn)
      (eq : w' = w.withStore (recordedStore w.store job claim previous result now))

theorem effect_policy {policy : PolicyStore} (h : Policy.Evolves w.store.policy policy)
    (hosts : Table NodeId HostRow) :
    Effect now w (w.withStore { w.store with policy := policy, hosts := hosts }) :=
  .quiet rfl rfl (AttemptsGrow.refl _ _) h (List.Subset.refl _)

theorem isPolicyOnly_ne {label : Policy.Label} (h : isPolicyOnly label) :
    (∀ node draws now, label ≠ .rotateProtocolCanary node draws now) ∧
      ∀ node heartbeat, label ≠ .recordHeartbeat node heartbeat := by
  constructor
  · rintro node draws now rfl
    cases h
  · rintro node heartbeat rfl
    cases h

theorem effect_enrollNode {host : HostRow} {cfg : Option DesiredStateConfigurationDraft}
    {draws : Draws} {time : Nat}
    (h : w.store.enrollNode identity node host cfg draws time = .ok s') :
    Effect now w (w.withStore s') := by
  obtain ⟨pol, hpol, h⟩ := bind_ok.1 h
  cases h
  exact effect_policy (Policy.evolves_enrollNode (mapError_ok.1 hpol)) _

theorem effect_rotateProtocolCanary {draws : Draws} {time : Nat}
    (h : w.store.rotateProtocolCanary identity node draws time = .ok s') :
    Effect now w (w.withStore s') := by
  obtain ⟨pol, hpol, h⟩ := bind_ok.1 h
  cases h
  obtain ⟨cur, -, hpol⟩ := bind_ok.1 (mapError_ok.1 hpol)
  exact .rotated node _ pol rfl (Policy.evolves_compileAndPublish hpol)

/-! ### Heartbeats -/

variable {heartbeat : EndpointHeartbeat}

theorem recordHeartbeat_policy {record : NodeRecord} (h : Accepts s node heartbeat record) :
    s.policy.recordHeartbeat node heartbeat.toNodeHeartbeat = .ok { s.policy with
        nodes := s.policy.nodes.updateAt node fun _ =>
          heard heartbeat.toNodeHeartbeat record } := by
  have hne : ¬ heartbeat.heartbeatGeneration = record.lastHeartbeatGeneration :=
    Nat.ne_of_gt h.newer
  have hrec : record.recordHeartbeat heartbeat.toNodeHeartbeat
      = .ok (heard heartbeat.toNodeHeartbeat record) := by
    unfold NodeRecord.recordHeartbeat
    rw [(EndpointHeartbeat.valid_of_validate h.valid).base]
    simp [h.mayReport, Nat.not_lt.2 h.newer.le, hne, h.progress, Except.mapError, refuseWhen,
      heard, pure, Except.pure]
  unfold PolicyStore.recordHeartbeat
  rw [h.found]
  simp [required, hrec, Except.mapError, pure, Except.pure]

variable {status : NodeHeartbeatStatus}

theorem recordHeartbeat_cases {key : PublicKey}
    (h : s.recordHeartbeat key node heartbeat now = .ok (s', status)) :
    s' = s ∨ ∃ record, Accepts s node heartbeat record ∧
      (reportedStore s node heartbeat record now).recordEndpointCandidates node
        heartbeat.endpoints heartbeat.heartbeatGeneration now = .ok s' := by
  obtain ⟨_, hval, h⟩ := bind_ok.1 h
  obtain ⟨record, hfound, h⟩ := bind_ok.1 h
  obtain ⟨_, hmay, h⟩ := bind_ok.1 h
  obtain ⟨_, hstale, h⟩ := bind_ok.1 h
  have hle := Nat.le_of_not_lt (refuse_ok.1 hstale)
  split at h
  · -- the generation of the last heartbeat
    obtain ⟨_, h⟩ := rest_ok h
    obtain ⟨_, h⟩ := rest_ok h
    exact .inl (Prod.mk.inj (Except.ok.inj h)).1.symm
  rename_i hne
  obtain ⟨pol, hpol, h⟩ := bind_ok.1 h
  obtain ⟨recorded, hrecd, h⟩ := bind_ok.1 h
  obtain ⟨_, h⟩ := rest_ok h
  cases h
  have hlt := lt_of_le_of_ne hle fun heq => hne heq.symm
  have hmayReport : record.status.mayReport = true := by simpa using refuse_ok.1 hmay
  have hprog : record.validateReportedProgress heartbeat.toNodeHeartbeat = .ok () := by
    obtain ⟨row, hrow, hpol⟩ := bind_ok.1 (mapError_ok.1 hpol)
    obtain rfl := Option.mem_unique (required_ok.1 hfound) (required_ok.1 hrow)
    obtain ⟨after, haft, -⟩ := bind_ok.1 hpol
    obtain ⟨_, -, haft⟩ := bind_ok.1 (mapError_ok.1 haft)
    obtain ⟨_, haft⟩ := rest_ok haft
    obtain ⟨_, haft⟩ := rest_ok haft
    rw [if_neg fun hrepeat => hne hrepeat.1] at haft
    obtain ⟨_, haft⟩ := rest_ok haft
    exact (check_ok.1 haft).1
  have hacc : Accepts s node heartbeat record :=
    ⟨mapError_ok.1 hval, required_ok.1 hfound, hmayReport, hlt, hprog⟩
  obtain rfl := Except.ok.inj ((mapError_ok.1 hpol).symm.trans (recordHeartbeat_policy hacc))
  exact .inr ⟨record, hacc, hrecd⟩

theorem effect_recordHeartbeat {key : PublicKey}
    (h : w.store.recordHeartbeat key node heartbeat now = .ok (s', status)) :
    Effect now w (w.withStore s') := by
  rcases recordHeartbeat_cases h with rfl | ⟨record, hacc, hupd⟩
  · exact .quiet rfl rfl (AttemptsGrow.refl _ _) (Policy.Evolves.refl _) (List.Subset.refl _)
  · exact .reported node heartbeat record hacc hupd rfl

/-! ### Claims -/

theorem attemptsGrow_expire :
    AttemptsGrow s.candidates s.attempts (s.expireStaleProbeClaims now).attempts :=
  attemptsGrow_map fun _ => kept_ite

variable {entry : (NodeId × EndpointId) × CandidateRow}

theorem mem_of_head?_due {due : (NodeId × EndpointId) × CandidateRow → Bool} {phase : ProbePhase}
    (h : ((s.candidates.filter due).insertionSort (s.probeOrder phase)).head? = some entry) :
    entry ∈ s.candidates := by
  have hmem := List.mem_of_head? h
  rw [List.mem_insertionSort] at hmem
  exact (List.mem_filter.1 hmem).1

theorem insertClaim_of_ok {a : ProbeAttempt} (h : s.insertClaim a = .ok s') :
    s' = { s with attempts := a :: s.attempts } := by
  obtain ⟨_, h⟩ := rest_ok h
  obtain ⟨_, h⟩ := rest_ok h
  exact (Except.ok.inj h).symm

variable {fresh : FreshClaim} {jobs : List ProtocolCanaryJob}

theorem effect_claim {phase : ProbePhase} {claimExpiresAt : Nat}
    (hent : entry ∈ (w.store.expireStaleProbeClaims now).candidates)
    (h : (w.store.expireStaleProbeClaims now).insertClaim
      ((w.store.expireStaleProbeClaims now).claimAttempt phase fresh entry now claimExpiresAt)
        = .ok s') : Effect now w ⟨s', jobs ++ w.jobs⟩ := by
  obtain rfl := insertClaim_of_ok h
  exact .quiet rfl rfl (attemptsGrow_expire.cons hent rfl rfl) (Policy.Evolves.refl _)
    (List.subset_append_right _ _)

theorem effect_expire : Effect now w ⟨w.store.expireStaleProbeClaims now, jobs ++ w.jobs⟩ :=
  .quiet rfl rfl attemptsGrow_expire (Policy.Evolves.refl _) (List.subset_append_right _ _)

variable {schedule : ProbeSchedule}

theorem effect_claimTcpProbe {job : Option TcpProbeJob}
    (h : w.store.claimTcpProbe fresh schedule now = .ok (s', job)) :
    Effect now w (w.withStore s') := by
  obtain ⟨_, h⟩ := rest_ok h
  dsimp only at h
  split at h
  · cases h
    show Effect now w ⟨_, [] ++ w.jobs⟩
    exact effect_expire
  rename_i entry hent
  obtain ⟨claimed, hclaimed, hpair⟩ := except_map_ok.1 h
  cases hpair
  show Effect now w ⟨_, [] ++ w.jobs⟩
  exact effect_claim (mem_of_head?_due hent) hclaimed

theorem effect_claimProtocolCanary {job : Option ProtocolCanaryJob}
    (h : w.store.claimProtocolCanary fresh schedule now = .ok (s', job)) :
    Effect now w ⟨s', job.toList ++ w.jobs⟩ := by
  obtain ⟨_, h⟩ := rest_ok h
  dsimp only at h
  split at h
  · cases h
    exact effect_expire
  rename_i entry hent
  split at h
  · cases h
    exact effect_expire
  obtain ⟨_, h⟩ := rest_ok h
  obtain ⟨claimed, hclaimed, h⟩ := bind_ok.1 h
  cases h
  exact effect_claim (mem_of_head?_due hent) hclaimed

/-! ### Completions -/

variable {claim : ProbeAttempt}

theorem finishProbeAttempt_of_ok {status : ProbeStatus}
    (h : s.finishProbeAttempt claim status now = .ok s') :
    s' = { s with attempts := s.attempts.map fun attempt =>
      if attempt.probeId = claim.probeId then attempt.finish status else attempt } := by
  obtain ⟨_, h⟩ := rest_ok h
  exact (Except.ok.inj h).symm

/-- A claim is closed without a word about its endpoint. -/
theorem effect_finish {status : ProbeStatus}
    (h : w.store.finishProbeAttempt claim status now = .ok s') : Effect now w (w.withStore s') := by
  obtain rfl := finishProbeAttempt_of_ok h
  exact .quiet rfl rfl (attemptsGrow_map fun _ => kept_ite) (Policy.Evolves.refl _)
    (List.Subset.refl _)

variable {completion : TcpProbeCompletion}

theorem effect_completeTcpProbe {job : TcpProbeJob} {result : TcpProbeResult}
    (h : w.store.completeTcpProbe job result now = .ok (s', completion)) :
    Effect now w (w.withStore s') := by
  obtain ⟨claim, h⟩ := rest_ok h
  obtain ⟨_, h⟩ := rest_ok h
  split at h
  · cases h
    exact .quiet rfl rfl (AttemptsGrow.refl _ _) (Policy.Evolves.refl _) (List.Subset.refl _)
  split at h
  · obtain ⟨finished, hfin, hpair⟩ := except_map_ok.1 h
    cases hpair
    exact effect_finish hfin
  split at h
  · obtain ⟨finished, hfin, hpair⟩ := except_map_ok.1 h
    cases hpair
    exact effect_finish hfin
  · obtain ⟨finished, hfin, hpair⟩ := except_map_ok.1 h
    cases hpair
    exact effect_finish hfin

variable {job : ProtocolCanaryJob}

theorem current_of_checks (hclaim : s.loadProbeClaim job.toTcpProbeJob = .ok claim)
    (hauth : claim.authenticates .protocol job.toTcpProbeJob)
    (hclaimed : claim.status = .claimed) (hopen : now < claim.claimExpiresAt)
    (hcand : s.probeCandidateIsCurrent job.toTcpProbeJob now)
    (hcred : s.protocolCanaryCredentialIsCurrent job) :
    ∃ row record credential, Current s job now claim row record credential := by
  have hfind := required_ok.1 hclaim
  have hprobe := List.find?_some hfind
  simp only [Bool.and_eq_true, decide_eq_true_eq] at hprobe
  obtain ⟨row, hrow, hcheck⟩ := (Option.any_eq_true _ _).mp hcand
  simp only [Bool.and_eq_true, decide_eq_true_eq, Option.isNone_iff_eq_none] at hcheck
  obtain ⟨⟨⟨⟨⟨⟨⟨⟨haddr, hport⟩, hrev⟩, hgen⟩, -⟩, hcur⟩, hunexpired⟩, -⟩, hserv⟩ := hcheck
  obtain ⟨hnode, -⟩ := Bool.and_eq_true_iff.1 hserv
  obtain ⟨record, hrec, hnode⟩ := (Option.any_eq_true _ _).mp hnode
  simp only [Bool.and_eq_true, decide_eq_true_eq] at hnode
  obtain ⟨⟨hact, happ⟩, hheard⟩ := hnode
  obtain ⟨credential, hlist, hsecret⟩ := (Option.any_eq_true _ _).mp hcred
  simp only [Bool.and_eq_true, decide_eq_true_eq] at hsecret
  exact ⟨row, record, credential, List.mem_of_find?_eq_some hfind, hprobe.2, hauth, hclaimed, hopen,
    hrow, ⟨haddr, hport, hrev⟩, hgen, hcur, hunexpired, hrec, hact, happ.trans (congrArg some hrev),
    hheard.trans hgen, hlist, hsecret.1, hsecret.2⟩

variable {result : ProtocolCanaryResult}

theorem completeProtocolCanary_cases
    (h : s.completeProtocolCanary job result now = .ok (s', completion)) : completion ≠ .recorded ∧
    (s' = s ∨ ∃ claim status, s.finishProbeAttempt claim status now = .ok s') ∨ completion =
    .recorded ∧ ∃ claim row record cred prev, Current s job now claim row record cred ∧
    s.verifications.find (job.nodeId, job.endpointId) = some prev ∧ prev ≠ .withdrawn ∧ s' =
    recordedStore s job claim prev result now := by
  obtain ⟨claim, hclaim, h⟩ := bind_ok.1 h
  obtain ⟨_, hauth, h⟩ := bind_ok.1 h
  split at h
  · cases h
    exact .inl ⟨by decide, .inl rfl⟩
  rename_i hclaimed
  split at h
  · obtain ⟨finished, hfin, hpair⟩ := except_map_ok.1 h
    cases hpair
    exact .inl ⟨by decide, .inr ⟨claim, _, hfin⟩⟩
  rename_i hopen
  split at h
  · obtain ⟨finished, hfin, hpair⟩ := except_map_ok.1 h
    cases hpair
    exact .inl ⟨by decide, .inr ⟨claim, _, hfin⟩⟩
  rename_i hcheck
  simp only [Bool.or_eq_true, Bool.not_eq_true', not_or, Bool.not_eq_false] at hcheck
  obtain ⟨row, record, cred, hcur⟩ := current_of_checks hclaim
    (by simpa using refuse_ok.1 hauth) (not_not.1 hclaimed)
    (Nat.lt_of_not_le hopen) hcheck.1 hcheck.2
  obtain ⟨finished, hfin, h⟩ := bind_ok.1 h
  obtain ⟨upd, hupd, h⟩ := bind_ok.1 h
  cases h
  obtain rfl := finishProbeAttempt_of_ok hfin
  obtain ⟨_, hupd⟩ := rest_ok hupd
  obtain ⟨prev, hprev, hupd⟩ := bind_ok.1 hupd
  obtain ⟨_, hwd, hupd⟩ := bind_ok.1 hupd
  obtain ⟨_, hupd⟩ := rest_ok hupd
  cases hupd
  exact .inr ⟨rfl, claim, row, record, cred, prev, hcur, required_ok.1 hprev, refuse_ok.1 hwd, rfl⟩

theorem effect_completeProtocolCanary (hjob : job ∈ w.jobs)
    (h : w.store.completeProtocolCanary job result now = .ok (s', completion)) :
    Effect now w (w.withStore s') := by
  rcases completeProtocolCanary_cases h with ⟨-, rfl | ⟨claim, status, hfin⟩⟩ |
    ⟨-, claim, row, record, cred, prev, hcur, hprev, hverifiable, rfl⟩
  · exact .quiet rfl rfl (AttemptsGrow.refl _ _) (Policy.Evolves.refl _) (List.Subset.refl _)
  · exact effect_finish hfin
  · exact .recorded job result claim row record cred prev hjob hcur hprev hverifiable rfl

/-! ### Every step -/

/-- The clock reading of a step, where it matters for endpoints. -/
def Label.time : Label → Nat
  | .recordHeartbeat _ _ now | .claimTcpProbe _ _ now | .completeTcpProbe _ _ now
  | .claimProtocolCanary _ _ now | .completeProtocolCanary _ _ now => now
  | _ => 0

theorem effect_of_next {label : Label} (h : next identity w label = some w') :
    Effect label.time w w' := by
  cases label with
  | policy label =>
    replace h : (if isPolicyOnly label then _ else none) = some w' := h
    split at h
    · rename_i honly
      obtain ⟨policy, hpol, rfl⟩ := Option.map_eq_some_iff.1 h
      obtain ⟨hrot, hhb⟩ := isPolicyOnly_ne honly
      exact effect_policy (Policy.evolves_perform (toOption_some.1 hpol) hrot hhb) _
    · cases h
  | enrollNode node host configuration draws now =>
    obtain ⟨s', hs', rfl⟩ := Option.map_eq_some_iff.1 h
    exact effect_enrollNode (toOption_some.1 hs')
  | rotateProtocolCanary node draws now =>
    obtain ⟨s', hs', rfl⟩ := Option.map_eq_some_iff.1 h
    exact effect_rotateProtocolCanary (toOption_some.1 hs')
  | recordHeartbeat node heartbeat now =>
    obtain ⟨⟨s', status⟩, hs', rfl⟩ := Option.map_eq_some_iff.1 h
    exact effect_recordHeartbeat (toOption_some.1 hs')
  | claimTcpProbe fresh schedule now =>
    obtain ⟨⟨s', job⟩, hs', rfl⟩ := Option.map_eq_some_iff.1 h
    exact effect_claimTcpProbe (toOption_some.1 hs')
  | completeTcpProbe job result now =>
    obtain ⟨⟨s', completion⟩, hs', rfl⟩ := Option.map_eq_some_iff.1 h
    exact effect_completeTcpProbe (toOption_some.1 hs')
  | claimProtocolCanary fresh schedule now =>
    obtain ⟨⟨s', job⟩, hs', rfl⟩ := Option.map_eq_some_iff.1 h
    exact effect_claimProtocolCanary (toOption_some.1 hs')
  | completeProtocolCanary job result now =>
    replace h : (if job ∈ w.jobs then _ else none) = some w' := h
    split at h
    · rename_i hjob
      obtain ⟨⟨s', completion⟩, hs', rfl⟩ := Option.map_eq_some_iff.1 h
      exact effect_completeProtocolCanary hjob (toOption_some.1 hs')
    · cases h

end RealityConsole.Endpoints
