import RealityConsole.Client.Connection

/-!
# The Xray supervisor of the client

Owns the Xray child process and the phase that the user sees. What the operating
system does (ports, files, the child, the system proxy) is decided by the
environment of a call; the supervisor's own state changes as the source changes
it, also on every error path.
-/

namespace RealityConsole.Client

open Framework Protocol

/-! ### State -/

inductive ClientPhase where
  | disconnected
  | starting
  | connected
  | stopping
  | failed
  deriving DecidableEq, Repr

inductive ProxyMode where
  | manual
  | system
  deriving DecidableEq, Repr

/-- `ClientState` without the fixed local endpoints. -/
structure ClientState where
  phase : ClientPhase
  activeProfileId : Option String
  mode : Option ProxyMode
  errorCode : Option String
  errorMessage : Option String

def ClientState.disconnected : ClientState := ⟨.disconnected, none, none, none, none⟩

/-- `SupervisorInner` with the recovery flag; a child is the profile whose configuration it runs. -/
structure Supervisor where
  state : ClientState
  child : Option ConnectionProfile
  generation : Nat
  startupRecovered : Bool

def Supervisor.new : Supervisor := ⟨.disconnected, none, 0, false⟩

def processError (code : String) : ClientError :=
  ⟨code,
    if code = "xray_sidecar_unavailable" then "The bundled Xray core is unavailable."
    else if code = "xray_start_timeout" then "Xray did not open its local proxy ports in time."
    else if code = "xray_exited_during_start" then
      "Xray exited before the local proxy became ready."
    else "The Xray process operation failed."⟩

/-! ### The environment of a call -/

/-- The answer of the system proxy to one request. -/
abbrev ProxyAnswer := Except ClientError Unit

structure StopEnvironment where
  /-- The recovery of an earlier proxy setting, if it is still due. -/
  recovery : ProxyAnswer
  /-- The restoration of the proxy settings. -/
  restore : ProxyAnswer

inductive LaunchFailure where
  | portInUse (port : Nat)
  | configFile (code : String)
  | sidecarUnavailable
  | spawnFailed

def LaunchFailure.error : LaunchFailure → ClientError
  | portInUse port =>
    ⟨"local_proxy_port_in_use", "Local proxy port " ++ toString port ++ " is already in use."⟩
  | configFile code => processError code
  | sidecarUnavailable => processError "xray_sidecar_unavailable"
  | spawnFailed => processError "xray_start_failed"

/-- How a launched Xray comes up. -/
inductive Startup where
  /-- Both ports open in time. -/
  | ready
  /-- Both ports open, and the child exits before it is marked as connected. -/
  | readyThenExited
  | exited
  | timedOut

structure StartEnvironment where
  recovery : ProxyAnswer
  launch : Option LaunchFailure
  startup : Startup
  /-- The system proxy takes over the local ports. -/
  apply : ProxyAnswer
  /-- The proxy settings are restored after a failure. -/
  restore : ProxyAnswer

namespace Supervisor

/-! ### Steps -/

/-- The next generation, a 64-bit counter that wraps. -/
def nextGeneration (s : Supervisor) : Nat := (s.generation + 1) % 18446744073709551616

def failWith (s : Supervisor) (error : ClientError) : Supervisor :=
  { s with state := { s.state with
      phase := .failed, errorCode := some error.code, errorMessage := some error.message } }

def recordRestoreFailure (s : Supervisor) (error : ClientError) : Supervisor := s.failWith error

/-- `restore_proxy_async` sets the recovery flag. -/
def restored (s : Supervisor) (answer : ProxyAnswer) : Supervisor :=
  { s with startupRecovered := answer.isOk }

def restoreRecorded (s : Supervisor) : ProxyAnswer → Supervisor
  | .ok () => s.restored (.ok ())
  | .error error => (s.restored (.error error)).recordRestoreFailure error

def ensureStartupRecovery (s : Supervisor) (answer : ProxyAnswer) :
    Supervisor × Except ClientError Unit :=
  if s.startupRecovered then (s, .ok ()) else (s.restoreRecorded answer, answer)

def activeConnection (s : Supervisor) (profileId : String) (mode : ProxyMode) : Bool :=
  s.state.phase = .connected && s.state.activeProfileId = some profileId
    && s.state.mode = some mode

def beginStart (s : Supervisor) (profileId : String) (mode : ProxyMode) :
    Except ClientError Supervisor :=
  if s.state.phase = .disconnected ∨ s.state.phase = .failed then
    .ok { s with
      generation := s.nextGeneration
      state := ⟨.starting, some profileId, some mode, none, none⟩ }
  else .error (processError "xray_transition_in_progress")

def markConnected (s : Supervisor) (generation : Nat) : Except ClientError Supervisor :=
  if s.generation ≠ generation ∨ s.state.phase ≠ .starting then
    .error (processError "xray_start_cancelled")
  else .ok { s with state := { s.state with phase := .connected } }

def failStart (s : Supervisor) (generation : Nat) (error : ClientError) (restore : ProxyAnswer) :
    Supervisor :=
  if s.generation ≠ generation then s
  else ({ s with generation := s.nextGeneration, child := none }.failWith error).restoreRecorded
    restore

def handleTermination (s : Supervisor) (generation : Nat) (restore : ProxyAnswer) : Supervisor :=
  if s.generation ≠ generation then s
  else ({ s with child := none }.failWith
    ⟨"xray_exited_unexpectedly", "Xray stopped unexpectedly."⟩).restoreRecorded restore

/-! ### Calls -/

/-- The end of a start whose ports are open. -/
def finishStart (s : Supervisor) (generation : Nat) (env : StartEnvironment) :
    Supervisor × Except ClientError ClientState :=
  match s.markConnected generation with
  | .ok connected => (connected, .ok connected.state)
  | .error error => (s.failStart generation error env.restore, .error error)

def applyProxy (mode : ProxyMode) (env : StartEnvironment) : ProxyAnswer :=
  if mode = .system then env.apply else .ok ()

/-- The loop of `start` that waits for the ports. -/
def awaitReady (s : Supervisor) (mode : ProxyMode) (env : StartEnvironment) :
    Supervisor × Except ClientError ClientState :=
  match env.startup, applyProxy mode env with
  | .exited, _ =>
    (s.handleTermination s.generation env.restore,
      .error (processError "xray_exited_during_start"))
  | .timedOut, _ =>
    let error := processError "xray_start_timeout"
    (s.failStart s.generation error env.restore, .error error)
  | .ready, .error error => (s.failStart s.generation error env.restore, .error error)
  | .readyThenExited, .error error => (s.failStart s.generation error env.restore, .error error)
  | .ready, .ok () => s.finishStart s.generation env
  | .readyThenExited, .ok () =>
    (s.handleTermination s.generation env.restore).finishStart s.generation env

/-- The part of `start` after `begin_start`. -/
def launch (s : Supervisor) (profile : ConnectionProfile) (mode : ProxyMode)
    (env : StartEnvironment) : Supervisor × Except ClientError ClientState :=
  match env.launch with
  | some failure => (s.failWith failure.error, .error failure.error)
  | none => { s with child := some profile }.awaitReady mode env

def start (s : Supervisor) (profileId : String) (profile : ConnectionProfile) (mode : ProxyMode)
    (env : StartEnvironment) : Supervisor × Except ClientError ClientState :=
  match s.ensureStartupRecovery env.recovery with
  | (s, .error error) => (s, .error error)
  | (s, .ok ()) =>
    if s.activeConnection profileId mode then (s, .ok s.state)
    else
      match s.beginStart profileId mode with
      | .error error => (s, .error error)
      | .ok s => s.launch profile mode env

def finishStop (s : Supervisor) (alreadyDisconnected : Bool) :
    ProxyAnswer → Supervisor × Except ClientError ClientState
  | .ok () =>
    let s := if !alreadyDisconnected || s.state.phase ≠ .disconnected then
      { s with state := .disconnected } else s
    (s, .ok s.state)
  | .error error => (s.failWith error, .error error)

def stop (s : Supervisor) (env : StopEnvironment) :
    Supervisor × Except ClientError ClientState :=
  match s.ensureStartupRecovery env.recovery with
  | (s, .error error) => (s, .error error)
  | (s, .ok ()) =>
    let alreadyDisconnected := s.state.phase = .disconnected
    let s := { s with generation := s.nextGeneration, child := none }
    let s := if alreadyDisconnected then s
      else { s with state := { s.state with phase := .stopping } }
    (s.restored env.restore).finishStop alreadyDisconnected env.restore

/-! ### What the calls leave behind -/

/-- No Xray is started or being started. -/
def Idle (s : Supervisor) : Prop := s.state.phase = .disconnected ∨ s.state.phase = .failed

/-- Xray runs with a profile under an identity in a mode. -/
structure Runs (s : Supervisor) (profileId : String) (profile : ConnectionProfile)
    (mode : ProxyMode) : Prop where
  phase : s.state.phase = .connected
  profileId : s.state.activeProfileId = some profileId
  mode : s.state.mode = some mode
  child : s.child = some profile

variable {s : Supervisor}

theorem Idle.phase_ne (h : s.Idle) : s.state.phase ≠ .connected := by
  rcases h with h | h
  · rw [h]
    decide
  · rw [h]
    decide

theorem failWith_idle (s : Supervisor) (error : ClientError) : (s.failWith error).Idle := .inr rfl

theorem restoreRecorded_idle (h : s.Idle) (answer : ProxyAnswer) :
    (s.restoreRecorded answer).Idle := by
  cases answer with
  | ok u => exact h
  | error error => exact failWith_idle _ error

theorem ensureStartupRecovery_cases (s : Supervisor) (answer : ProxyAnswer) :
    (∃ s' error, s.ensureStartupRecovery answer = (s', .error error) ∧ s'.Idle) ∨ ∃ s',
    s.ensureStartupRecovery answer = (s', .ok ()) ∧ s'.state = s.state ∧ s'.child = s.child := by
  unfold ensureStartupRecovery
  by_cases hrecovered : s.startupRecovered = true
  · rw [if_pos hrecovered]
    exact .inr ⟨s, rfl, rfl, rfl⟩
  rw [if_neg hrecovered]
  cases answer with
  | ok u => exact .inr ⟨_, rfl, rfl, rfl⟩
  | error error => exact .inl ⟨_, error, rfl, failWith_idle _ error⟩

/-- After `stop`, whatever it returns, no Xray runs. -/
theorem stop_idle (s : Supervisor) (env : StopEnvironment) : (s.stop env).1.Idle := by
  unfold stop
  rcases s.ensureStartupRecovery_cases env.recovery with ⟨s', error, hrecover, hidle⟩ |
    ⟨s', hrecover, -, -⟩
  · rw [hrecover]
    exact hidle
  rw [hrecover]
  cases hrestore : env.restore with
  | error error => exact failWith_idle _ error
  | ok u =>
    -- the final state is the disconnected one, or was disconnected before
    simp only [finishStop]
    by_cases hphase : s'.state.phase = .disconnected
    · exact .inl (by simp [hphase, restored])
    · exact .inl (by simp [hphase, restored, ClientState.disconnected])

theorem handleTermination_idle (s : Supervisor) (restore : ProxyAnswer) :
    (s.handleTermination s.generation restore).Idle := by
  unfold handleTermination
  rw [if_neg (not_not.2 rfl)]
  exact restoreRecorded_idle (failWith_idle _ _) restore

theorem failStart_idle (s : Supervisor) (error : ClientError) (restore : ProxyAnswer) :
    (s.failStart s.generation error restore).Idle := by
  unfold failStart
  rw [if_neg (not_not.2 rfl)]
  exact restoreRecorded_idle (failWith_idle _ _) restore

@[simp] theorem handleTermination_generation (s : Supervisor) (generation : Nat)
    (restore : ProxyAnswer) :
    (s.handleTermination generation restore).generation = s.generation := by
  unfold handleTermination
  split
  · rfl
  · cases restore <;> rfl

/-- What became of a start: Xray runs as asked, or the call failed and nothing runs. -/
def Settled (profileId : String) (profile : ConnectionProfile) (mode : ProxyMode)
    (result : Supervisor × Except ClientError ClientState) : Prop :=
  (∃ state, result.2 = .ok state ∧ result.1.Runs profileId profile mode)
    ∨ (∃ error, result.2 = .error error ∧ result.1.Idle)

theorem awaitReady_settled {profileId : String} {profile : ConnectionProfile}
    {mode : ProxyMode} (hst : s.state = ⟨.starting, some profileId, some mode, none, none⟩)
    (hchild : s.child = some profile) (env : StartEnvironment) :
    Settled profileId profile mode (s.awaitReady mode env) := by
  unfold awaitReady
  split
  · exact .inr ⟨_, rfl, s.handleTermination_idle env.restore⟩
  · exact .inr ⟨_, rfl, s.failStart_idle _ env.restore⟩
  · exact .inr ⟨_, rfl, s.failStart_idle _ env.restore⟩
  · exact .inr ⟨_, rfl, s.failStart_idle _ env.restore⟩
  · -- the only way to the connected phase
    have hmark : s.markConnected s.generation
        = .ok { s with state := { s.state with phase := .connected } } := by
      unfold markConnected
      rw [if_neg]
      rw [hst]
      simp
    unfold finishStart
    rw [hmark]
    exact .inl ⟨_, rfl, rfl, by rw [hst], by rw [hst], hchild⟩
  · have hidle := s.handleTermination_idle env.restore
    have hmark : (s.handleTermination s.generation env.restore).markConnected s.generation
        = .error (processError "xray_start_cancelled") := by
      unfold markConnected
      rw [if_pos]
      refine .inr ?_
      rcases hidle with hphase | hphase
      · rw [hphase]
        decide
      · rw [hphase]
        decide
    unfold finishStart
    rw [hmark]
    refine .inr ⟨_, rfl, ?_⟩
    have hfail := (s.handleTermination s.generation env.restore).failStart_idle
      (processError "xray_start_cancelled") env.restore
    rwa [handleTermination_generation] at hfail

theorem start_settled (hidle : s.Idle) (profileId : String)
    (profile : ConnectionProfile) (mode : ProxyMode) (env : StartEnvironment) :
    Settled profileId profile mode (s.start profileId profile mode env) := by
  unfold start
  rcases s.ensureStartupRecovery_cases env.recovery with
    ⟨s', error, hrecover, hfail⟩ | ⟨s', hrecover, hst, -⟩
  · rw [hrecover]
    exact .inr ⟨error, rfl, hfail⟩
  have hidle' : s'.Idle := by
    unfold Idle
    rw [hst]
    exact hidle
  have hact : s'.activeConnection profileId mode = false := by
    simp [activeConnection, hidle'.phase_ne]
  have hbegin : s'.beginStart profileId mode = .ok { s' with
      generation := s'.nextGeneration
      state := ⟨.starting, some profileId, some mode, none, none⟩ } := if_pos hidle'
  simp only [hrecover, hact, hbegin, Bool.false_eq_true, if_false]
  unfold launch
  split
  · exact .inr ⟨_, rfl, failWith_idle _ _⟩
  · exact awaitReady_settled rfl rfl env

/-! ### Generations -/

theorem ensureStartupRecovery_generation (s : Supervisor) (answer : ProxyAnswer) :
    (s.ensureStartupRecovery answer).1.generation = s.generation := by
  unfold ensureStartupRecovery
  split
  · rfl
  · cases answer <;> rfl

theorem stop_generation {env : StopEnvironment} {state : ClientState}
    (h : (s.stop env).2 = .ok state) : (s.stop env).1.generation = s.nextGeneration := by
  have hkept := s.ensureStartupRecovery_generation env.recovery
  unfold stop at h ⊢
  rcases hrecovery : s.ensureStartupRecovery env.recovery with ⟨s', error | u⟩
  · rw [hrecovery] at h
    cases h
  rw [hrecovery] at hkept h
  cases hrestore : env.restore with
  | error error =>
    rw [hrestore] at h
    cases h
  | ok u =>
    have hnext : s'.nextGeneration = s.nextGeneration := by
      unfold nextGeneration
      rw [hkept]
    simp only [finishStop, restored]
    rw [← hnext]
    split <;> split <;> rfl

theorem finishStart_generation {generation : Nat} {env : StartEnvironment} {state : ClientState}
    (h : (s.finishStart generation env).2 = .ok state) :
    (s.finishStart generation env).1.generation = s.generation := by
  unfold finishStart markConnected at h ⊢
  split at h
  · rename_i connected hmark
    split at hmark
    · cases hmark
    · cases hmark
      rfl
  · cases h

theorem awaitReady_generation {mode : ProxyMode} {env : StartEnvironment} {state : ClientState}
    (h : (s.awaitReady mode env).2 = .ok state) :
    (s.awaitReady mode env).1.generation = s.generation := by
  unfold awaitReady at h ⊢
  split at h
  · cases h
  · cases h
  · cases h
  · cases h
  · exact finishStart_generation h
  · exact (finishStart_generation h).trans (s.handleTermination_generation _ _)

/-- A start that succeeds while nothing runs takes a new generation. -/
theorem start_generation {profileId : String} {profile : ConnectionProfile} {mode : ProxyMode}
    {env : StartEnvironment} {state : ClientState} (hidle : s.Idle)
    (h : (s.start profileId profile mode env).2 = .ok state) :
    (s.start profileId profile mode env).1.generation = s.nextGeneration := by
  have hkept := s.ensureStartupRecovery_generation env.recovery
  unfold start at h ⊢
  rcases s.ensureStartupRecovery_cases env.recovery with
    ⟨s', error, hrecovery, -⟩ | ⟨s', hrecovery, hstate, -⟩
  · rw [hrecovery] at h
    cases h
  rw [hrecovery] at hkept
  have hidle' : s'.Idle := by
    unfold Idle
    rw [hstate]
    exact hidle
  have hinactive : s'.activeConnection profileId mode = false := by
    simp [activeConnection, hidle'.phase_ne]
  have hbegin : s'.beginStart profileId mode = .ok { s' with
      generation := s'.nextGeneration
      state := ⟨.starting, some profileId, some mode, none, none⟩ } := if_pos hidle'
  simp only [hrecovery, hinactive, hbegin, Bool.false_eq_true, if_false] at h ⊢
  have hnext : s'.nextGeneration = s.nextGeneration := by
    unfold nextGeneration
    rw [hkept]
  unfold launch at h ⊢
  split at h
  · cases h
  · exact (awaitReady_generation h).trans hnext

end Supervisor

end RealityConsole.Client
