import RealityConsole.Framework.Machine
import RealityConsole.Framework.SortedMap
import RealityConsole.Protocol.Relay

/-!
# The provider's policy

The limits that the provider of a node sets for everything the node shares, and the limits
for the relay that the node host derives from them. `set_pause` reads the policy in one
transaction and replaces all of it in a later one.
-/

namespace RealityConsole.NodeHost

open Framework Protocol

/-- `WeeklyScheduleWindow`: a window of a UTC weekday, in minutes. -/
structure WeeklyScheduleWindow where
  weekday : Nat
  startMinute : Nat
  endMinute : Nat
  deriving DecidableEq, Repr

structure ProviderPolicy where
  schemaVersion : Nat
  paused : Bool
  weeklySchedule : List WeeklyScheduleWindow
  monthlyTransferCapBytes : Option Nat
  maxConcurrentSessions : Nat
  bandwidthLimitBps : Option Nat
  deriving DecidableEq, Repr

def ProviderPolicy.default : ProviderPolicy where
  schemaVersion := 1
  paused := false
  weeklySchedule := []
  monthlyTransferCapBytes := some (100 * 1024 ^ 3)
  maxConcurrentSessions := 16
  bandwidthLimitBps := some 20000000

def WeeklyScheduleWindow.validate (window : WeeklyScheduleWindow) : Except String Unit := do
  refuseWhen (¬(1 ≤ window.weekday ∧ window.weekday ≤ 7))
    "weekly schedule weekday must be between 1 and 7"
  refuseWhen (1439 < window.startMinute ∨ 1439 < window.endMinute)
    "weekly schedule minutes must be between 0 and 1439"
  refuseWhen (window.startMinute = window.endMinute)
    "weekly schedule window cannot have equal start and end minutes"

def ProviderPolicy.validate (policy : ProviderPolicy) : Except String Unit := do
  refuseWhen (policy.schemaVersion ≠ 1) "unsupported provider policy schema version"
  refuseWhen (64 < policy.weeklySchedule.length)
    "provider policy has too many weekly schedule windows"
  policy.weeklySchedule.forM WeeklyScheduleWindow.validate
  -- the cap must fit a signed 64-bit counter
  refuseWhen (policy.monthlyTransferCapBytes.any fun cap => !(1048576 ≤ cap && cap < 2 ^ 63))
    "monthly transfer cap must be at least 1 MiB and fit local counters"
  refuseWhen (policy.maxConcurrentSessions = 0 ∨ 4096 < policy.maxConcurrentSessions)
    "maximum concurrent sessions must be between 1 and 4096"
  refuseWhen (policy.bandwidthLimitBps.any fun limit => !(8000 ≤ limit && limit ≤ 10000000000))
    "bandwidth limit must be between 8000 and 10000000000 bits per second"

/-- 10 PiB, the largest limit that the relay protocol can express. -/
def maximumByteLimit : Nat := 10 * 1024 ^ 5

/-- The limits of `provider_relay_limits` before they are checked. One connection may copy what all
may copy in a month. -/
def relayLimitsOf (policy : ProviderPolicy) : RelayLimits where
  maxConcurrentStreams := policy.maxConcurrentSessions
  maxBytesPerSecond := policy.bandwidthLimitBps.elim 10000000000 fun bits =>
    max ((bits + 7) / 8) 1024
  maxBytesPerConnection := policy.monthlyTransferCapBytes.getD maximumByteLimit
  monthlyByteLimit := policy.monthlyTransferCapBytes.getD maximumByteLimit

/-- `provider_relay_limits`, for a stored policy. -/
def providerRelayLimits (policy : ProviderPolicy) : Except String RelayLimits := do
  policy.validate
  (relayLimitsOf policy).validate.mapError fun _ =>
    "provider policy cannot be represented as relay limits"
  return relayLimitsOf policy

/-! ### What an accepted policy says -/

structure ProviderPolicy.Bounds (policy : ProviderPolicy) : Prop where
  sessions : 1 ≤ policy.maxConcurrentSessions ∧ policy.maxConcurrentSessions ≤ 4096
  bandwidth : ∀ bits ∈ policy.bandwidthLimitBps, 8000 ≤ bits ∧ bits ≤ 10000000000
  cap : ∀ cap ∈ policy.monthlyTransferCapBytes, 1048576 ≤ cap

variable {policy : ProviderPolicy}

theorem ProviderPolicy.bounds_of_validate (h : policy.validate = .ok ()) : policy.Bounds := by
  simp only [ProviderPolicy.validate, check_ok, refuse_ok, Option.any_eq_true,
    not_exists, not_and] at h
  obtain ⟨-, -, -, hcap, hsess, hbw⟩ := h
  refine ⟨by omega, ?_, ?_⟩
  · intro bits hbits
    have hrange := hbw bits hbits
    simp only [Bool.not_eq_true', Bool.and_eq_false_iff, decide_eq_false_iff_not] at hrange
    omega
  · intro cap hmem
    have hrange := hcap cap hmem
    simp only [Bool.not_eq_true', Bool.and_eq_false_iff, decide_eq_false_iff_not] at hrange
    omega

/-- The limits of an accepted policy are valid unless the cap is above what the protocol can
express. -/
theorem validate_relayLimitsOf (h : policy.Bounds) : (relayLimitsOf policy).validate = .ok () ↔
      ∀ cap ∈ policy.monthlyTransferCapBytes, cap ≤ maximumByteLimit := by
  obtain ⟨hsess, hbw, hcap⟩ := h
  have hrate : 1024 ≤ (relayLimitsOf policy).maxBytesPerSecond
      ∧ (relayLimitsOf policy).maxBytesPerSecond ≤ 10000000000 := by
    cases hbits : policy.bandwidthLimitBps with
    | none => simp [relayLimitsOf, hbits]
    | some bits =>
      have hrange := hbw bits hbits
      simp only [relayLimitsOf, hbits, Option.elim_some]
      omega
  simp only [RelayLimits.validate, check_ok, refuse_ok, not_not, validateByteLimit]
  constructor
  · rintro ⟨-, -, hlim, -⟩ cap hmem
    simp only [relayLimitsOf, Option.mem_def.1 hmem, Option.getD_some] at hlim
    unfold maximumByteLimit
    omega
  · intro hmax
    have hlim : 1048576 ≤ policy.monthlyTransferCapBytes.getD maximumByteLimit
        ∧ policy.monthlyTransferCapBytes.getD maximumByteLimit ≤ maximumByteLimit := by
      cases hcase : policy.monthlyTransferCapBytes with
      | none => decide
      | some cap => exact ⟨hcap cap hcase, hmax cap hcase⟩
    exact ⟨hsess, hrate, hlim, hlim⟩

theorem providerRelayLimits_ok {limits : RelayLimits} : providerRelayLimits policy = .ok limits ↔
      policy.validate = .ok () ∧ (relayLimitsOf policy).validate = .ok () ∧
        relayLimitsOf policy = limits := by
  simp only [providerRelayLimits, check_ok, mapError_ok]
  exact and_congr_right fun _ => and_congr_right fun _ => ⟨Except.ok.inj, congrArg _⟩

/-! ### Pausing while the policy is configured -/

/-- The row `provider_policy`, with what the calls of `set_pause` that have read it will write, and
what the calls that have committed asked for. -/
structure PolicyRow where
  stored : ProviderPolicy
  generation : Nat
  pausing : SortedMap Nat ProviderPolicy
  asked : ProviderPolicy

/-- The transactions of the calls; `set_pause` has two. -/
inductive PolicyCall where
  | configure (policy : ProviderPolicy)
  | readPause (call : Nat) (paused : Bool)
  | writePause (call : Nat)

/-- The policies differ in the pause at most. -/
def ProviderPolicy.SameLimits (a b : ProviderPolicy) : Prop := a = { b with paused := a.paused }

instance (a b : ProviderPolicy) : Decidable (a.SameLimits b) := inferInstanceAs (Decidable (_ = _))

theorem ProviderPolicy.SameLimits.trans {a b c : ProviderPolicy} (hab : a.SameLimits b)
    (hbc : b.SameLimits c) : a.SameLimits c := by
  rw [ProviderPolicy.SameLimits] at *
  rw [hab, hbc]

theorem ProviderPolicy.SameLimits.symm {a b : ProviderPolicy} (h : a.SameLimits b) :
    b.SameLimits a := by
  rw [ProviderPolicy.SameLimits] at *
  rw [h]

namespace PolicyRow

def configureProviderPolicy (row : PolicyRow) (policy : ProviderPolicy) :
    Except String PolicyRow := do
  policy.validate
  return { row with stored := policy, generation := row.generation + 1 }

/-- A configuration asks for a whole policy, a pause for the pause alone. A call that is refused
changes nothing. -/
def step (row : PolicyRow) : PolicyCall → Option PolicyRow
  | .configure policy => (row.configureProviderPolicy policy).toOption.map fun after =>
    { after with asked := policy }
  | .readPause call paused =>
    if row.pausing.hasKey call then none
    else some { row with pausing := row.pausing.store call { row.stored with paused } }
  | .writePause call => (row.pausing.lookup call).bind fun policy =>
    (row.configureProviderPolicy policy).toOption.map fun after =>
      { after with
        pausing := row.pausing.remove call
        asked := { row.asked with paused := policy.paused } }

/-- No configuration that changes more than the pause commits between the two transactions of a
`set_pause`. -/
def Orderly (row : PolicyRow) : PolicyCall → Prop
  | .configure policy => row.pausing = [] ∨ policy.SameLimits row.stored
  | .readPause _ _ => True
  | .writePause _ => True

def system : Machine PolicyRow PolicyCall where
  init row := row.stored = row.asked ∧ row.pausing = []
  next := step

/-- What the calls of `set_pause` will write has the limits that are stored. -/
structure Inv (row : PolicyRow) : Prop where
  asked : row.stored = row.asked
  pausing : ∀ call policy, row.pausing.lookup call = some policy → policy.SameLimits row.stored

variable {row row' : PolicyRow} {call : Nat}

theorem eq_of_configure (h : row.configureProviderPolicy policy = .ok row') :
    row' = { row with stored := policy, generation := row.generation + 1 } := by
  obtain ⟨_, h⟩ := rest_ok h
  exact (Except.ok.inj h).symm

theorem eq_of_configure_step (h : row.step (.configure policy) = some row') :
    row' = { row with stored := policy, generation := row.generation + 1, asked := policy } := by
  obtain ⟨after, hafter, rfl⟩ := Option.map_eq_some_iff.1 h
  rw [eq_of_configure (toOption_some.1 hafter)]

theorem eq_of_writePause (h : row.step (.writePause call) = some row') :
    ∃ policy, row.pausing.lookup call = some policy ∧
      row' = { stored := policy, generation := row.generation + 1
               pausing := row.pausing.remove call
               asked := { row.asked with paused := policy.paused } } := by
  obtain ⟨policy, hread, hstep⟩ := Option.bind_eq_some_iff.1 h
  obtain ⟨after, hafter, rfl⟩ := Option.map_eq_some_iff.1 hstep
  exact ⟨policy, hread, by rw [eq_of_configure (toOption_some.1 hafter)]⟩

theorem Inv.step {label : PolicyCall} (h : row.Inv) (hok : row.Orderly label)
    (hstep : row.step label = some row') : row'.Inv := by
  cases label with
  | configure policy =>
    rw [eq_of_configure_step hstep]
    refine ⟨rfl, fun call pending hread => ?_⟩
    rcases hok with hnone | hsame
    · have hempty : row.pausing.lookup call = some pending := hread
      rw [hnone] at hempty
      cases hempty
    · exact (h.pausing call pending hread).trans hsame.symm
  | readPause call paused =>
    obtain ⟨-, hstep⟩ := Option.ite_none_left_eq_some.1 hstep
    cases hstep
    refine ⟨h.asked, fun other pending hread => ?_⟩
    rw [SortedMap.lookup_store] at hread
    split at hread
    · cases hread
      rfl
    · exact h.pausing other pending hread
  | writePause call =>
    obtain ⟨policy, hread, rfl⟩ := eq_of_writePause hstep
    have hsame := h.pausing call policy hread
    refine ⟨?_, fun other pending hother => ?_⟩
    · rw [← h.asked]
      exact hsame
    · rw [SortedMap.lookup_remove] at hother
      split at hother
      · cases hother
      · exact (h.pausing other pending hother).trans hsame.symm

theorem inv_of_run (h : system.Run Orderly row) : row.Inv := by
  apply h.invariant
  · rintro row ⟨hasked, hnone⟩
    refine ⟨hasked, fun call policy hread => ?_⟩
    rw [hnone] at hread
    cases hread
  · exact fun _ _ _ hinv hok hstep => hinv.step hok hstep

/-- In every orderly run the stored policy is the last configuration with the pauses since. The
condition is exact: what a `set_pause` writes right after a configuration keeps it if and only if
the configuration was orderly. -/
theorem no_lost_pause (h : system.Run Orderly row) :
    row.stored = row.asked ∧ ∀ call policy row' row'', row.step (.configure policy) = some row' →
      row'.step (.writePause call) = some row'' →
      (row''.stored = row''.asked ↔ row.Orderly (.configure policy)) := by
  have hinv := inv_of_run h
  refine ⟨hinv.asked, fun call policy row' row'' hconf hwrite => ?_⟩
  rw [eq_of_configure_step hconf] at hwrite
  obtain ⟨pending, hread, rfl⟩ := eq_of_writePause hwrite
  have hsame : pending.SameLimits row.stored := hinv.pausing call pending hread
  have hsome : row.pausing ≠ [] := by
    intro hnone
    rw [hnone] at hread
    cases hread
  constructor
  · intro hkept
    have hpolicy : pending.SameLimits policy := hkept
    exact .inr (hpolicy.symm.trans hsame)
  · rintro (hnone | horder)
    · exact absurd hnone hsome
    · exact hsame.trans horder.symm

instance (row : PolicyRow) (call : PolicyCall) : Decidable (row.Orderly call) := by
  cases call <;> unfold Orderly <;> infer_instance

/-- Two pauses overlap, then the limits are configured and the pause is lifted. -/
theorem no_lost_pause_in_turn : ∃ row, system.Run Orderly row ∧ row.generation = 4 ∧
    row.asked = { ProviderPolicy.default with maxConcurrentSessions := 4 } ∧
    row.stored = row.asked := by
  obtain ⟨row, hrun, hgeneration, hasked⟩ := Machine.run_of_exec (M := system)
    (s := ⟨.default, 0, [], .default⟩) Orderly
    (fun row => row.generation = 4 ∧
      row.asked = { ProviderPolicy.default with maxConcurrentSessions := 4 })
    [.readPause 0 true, .readPause 1 false, .writePause 1, .writePause 0,
      .configure { ProviderPolicy.default with paused := true, maxConcurrentSessions := 4 },
      .readPause 2 false, .writePause 2]
    ⟨rfl, rfl⟩ (by decide)
  exact ⟨row, hrun, hgeneration, hasked, (no_lost_pause hrun).1⟩

/-- A configuration between the two transactions of `set_pause` is lost. -/
theorem configuration_lost : ∃ row, system.Reachable row ∧ row.pausing = [] ∧
    row.asked = { ProviderPolicy.default with paused := true, maxConcurrentSessions := 4 } ∧
    row.stored = { ProviderPolicy.default with paused := true } :=
  Machine.run_of_exec (M := system) (s := ⟨.default, 0, [], .default⟩) (fun _ _ => True) _
    [.readPause 0 true, .configure { ProviderPolicy.default with maxConcurrentSessions := 4 },
      .writePause 0] ⟨rfl, rfl⟩ (by decide)

end PolicyRow

end RealityConsole.NodeHost
