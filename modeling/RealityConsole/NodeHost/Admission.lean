import Mathlib.Algebra.Order.Floor.Div
import Mathlib.Tactic.Linarith
import RealityConsole.Framework.Machine

/-!
# The bandwidth of the admission gate

All connections of a gate share one limiter, in both directions. A call reserves the time that its
bytes take behind everything reserved before, and sleeps once, to the end of it or longer: a timer
does not wake up early, but it can be late. Then the limiter lets the bytes pass. Times are
nanoseconds.

Source: `node-host/src/admission.rs`.
-/

namespace RealityConsole.NodeHost

open Framework

/-- The buffer of `transfer`, so the most bytes of one call. -/
def transferBufferBytes : Nat := 16 * 1024

/-- `BandwidthLimiter` with its `TokenBucket` -/
structure BandwidthLimiter where
  bytesPerSecond : Option Nat
  nextAvailable : Nat

/-- Bytes that a limiter lets pass at the deadline. -/
structure Grant where
  bytes : Nat
  deadline : Nat

/-- A grant, and how long after its deadline the sleep of the caller ends. -/
structure Passage extends Grant where
  late : Nat

def Passage.delayed (p : Passage) : Grant := ⟨p.bytes, p.deadline + p.late⟩

/-- A call of `acquire`: its bytes, its clock reading, and how late its sleep ends. -/
structure AcquireCall where
  bytes : Nat
  now : Nat
  late : Nat

/-- A limiter with the last clock reading and its grants, the latest first. -/
structure AdmissionGate where
  limiter : BandwidthLimiter
  clock : Nat
  passages : List Passage

def AdmissionGate.grants (g : AdmissionGate) : List Grant := g.passages.map Passage.toGrant

def AdmissionGate.passes (g : AdmissionGate) : List Grant := g.passages.map Passage.delayed

def BandwidthLimiter.new (bitsPerSecond : Option Nat) (now : Nat) : BandwidthLimiter :=
  ⟨bitsPerSecond.map (· / 8), now⟩

def transferTime (rate bytes : Nat) : Nat := bytes * 1000000000 ⌈/⌉ rate

/-- `acquire`: the limiter afterwards, and how long the caller sleeps. -/
def BandwidthLimiter.acquire (l : BandwidthLimiter) (bytes now : Nat) :
    Option (BandwidthLimiter × Nat) :=
  match l.bytesPerSecond with
  | none => some (l, 0)
  | some rate =>
    let next := max l.nextAvailable now + transferTime rate bytes
    -- a division by zero or a time that is no `u64` would panic
    if rate = 0 ∨ 2 ^ 64 ≤ transferTime rate bytes then none
    else some ({ l with nextAvailable := next }, next - now)

/-- Any connection calls `acquire` with bytes and a clock reading; the clock does not go back.
Limits are at least 8000 bits per second. -/
def gateSystem : Machine AdmissionGate AcquireCall where
  init g := ∃ bits now, 8000 ≤ bits ∧ g = ⟨.new (some bits) now, now, []⟩
  next g call :=
    if transferBufferBytes < call.bytes ∨ call.now < g.clock then none
    else (g.limiter.acquire call.bytes call.now).map fun (limiter, wait) =>
      ⟨limiter, call.now, ⟨⟨call.bytes, call.now + wait⟩, call.late⟩ :: g.passages⟩

namespace AdmissionGate

variable {rate slack : Nat} {call : AcquireCall} {g g' : AdmissionGate}

/-- The bytes let pass from one instant to another. -/
def passed (grants : List Grant) (first last : Nat) : Nat :=
  ((grants.filter fun x => first ≤ x.deadline ∧ x.deadline ≤ last).map Grant.bytes).sum

theorem passed_cons (x : Grant) (grants : List Grant) (first last : Nat) :
    passed (x :: grants) first last
      = (if first ≤ x.deadline ∧ x.deadline ≤ last then x.bytes else 0)
        + passed grants first last := by
  unfold passed
  split <;> simp [*]

/-- Grants up to one instant, in a window that goes on behind it. -/
theorem passed_of_le {grants : List Grant} {first last final : Nat}
    (h : ∀ grant ∈ grants, grant.deadline ≤ final) (hle : final ≤ last) :
    passed grants first last = passed grants first final := by
  unfold passed
  congr 2
  refine List.filter_congr fun grant hgr => ?_
  have hdead := h grant hgr
  exact decide_eq_decide.2 (by omega)

/-- Grants up to one instant, in a window that starts behind it. -/
theorem passed_of_lt {grants : List Grant} {first last final : Nat}
    (h : ∀ grant ∈ grants, grant.deadline ≤ final) (hlt : final < first) :
    passed grants first last = 0 := by
  rw [passed, List.filter_eq_nil_iff.2]
  · rfl
  · intro grant hgr
    have hdead := h grant hgr
    simp only [decide_eq_true_eq]
    omega

/-- What passes in a window was due in it or up to the greatest delay before. -/
theorem passed_delayed {passages : List Passage} {slack : Nat}
    (h : ∀ passage ∈ passages, passage.late ≤ slack) (first last : Nat) :
    passed (passages.map Passage.delayed) first last
      ≤ passed (passages.map Passage.toGrant) (first - slack) last := by
  induction passages with
  | nil => exact le_rfl
  | cons passage rest ih =>
    obtain ⟨hlate, hrest⟩ := List.forall_mem_cons.1 h
    rw [List.map_cons, List.map_cons, passed_cons, passed_cons]
    refine Nat.add_le_add ?_ (ih hrest)
    unfold Passage.delayed
    split
    · rw [if_pos (by dsimp only at *; omega)]
    · exact Nat.zero_le _

/-- Every sleep ends at most so late. -/
def Punctual (slack : Nat) (_ : AdmissionGate) (call : AcquireCall) : Prop := call.late ≤ slack

instance (slack : Nat) (call : AcquireCall) : Decidable (Punctual slack g call) :=
  inferInstanceAs (Decidable (_ ≤ _))

/-- The call sleeps once, to the end of what it reserves behind everything reserved before. -/
def Admits (rate : Nat) (g : AdmissionGate) (call : AcquireCall) (deadline : Nat) : Prop :=
  gateSystem.next g call = some
      ⟨⟨some rate, deadline⟩, call.now, ⟨⟨call.bytes, deadline⟩, call.late⟩ :: g.passages⟩ ∧
    deadline = max g.limiter.nextAvailable call.now + transferTime rate call.bytes

structure Reserved (rate slack : Nat) (g : AdmissionGate) : Prop where
  configured : g.limiter.bytesPerSecond = some rate
  rate_min : 1000 ≤ rate
  late_le : ∀ passage ∈ g.passages, passage.late ≤ slack
  deadline_le : ∀ grant ∈ g.grants, grant.deadline ≤ g.limiter.nextAvailable
  bounded : ∀ first last, first ≤ last → passed g.grants first last * 1000000000
    ≤ transferBufferBytes * 1000000000 + rate * (last - first)

/-- A call waits once, behind everything reserved. -/
theorem Reserved.next (h : Reserved rate slack g) (hbytes : call.bytes ≤ transferBufferBytes)
    (hnow : g.clock ≤ call.now) : ∃ deadline, Admits rate g call deadline := by
  have hrate := h.rate_min
  have hfits : transferTime rate call.bytes < 2 ^ 64 := by
    unfold transferTime transferBufferBytes at *
    rw [Nat.ceilDiv_eq_add_pred_div, Nat.div_lt_iff_lt_mul (by omega)]
    omega
  refine ⟨_, ?_, rfl⟩
  simp only [gateSystem, BandwidthLimiter.acquire, h.configured]
  rw [if_neg (by omega), if_neg (by omega)]
  simp only [Option.map_some, Option.some.injEq, mk.injEq, List.cons.injEq, Passage.mk.injEq,
    Grant.mk.injEq, true_and, and_true]
  omega

theorem Reserved.step (h : Reserved rate slack g) (hlate : Punctual slack g call)
    (hstep : gateSystem.next g call = some g') : Reserved rate slack g' := by
  have hcall : call.bytes ≤ transferBufferBytes ∧ g.clock ≤ call.now := by
    simp only [gateSystem] at hstep
    split at hstep
    · cases hstep
    · omega
  obtain ⟨next, hnext, hend⟩ := h.next hcall.1 hcall.2
  obtain rfl := Option.mem_unique hnext hstep
  have htime : call.bytes * 1000000000 ≤ rate * transferTime rate call.bytes :=
    le_smul_ceilDiv (Nat.lt_of_lt_of_le (by decide) h.rate_min)
  generalize transferTime rate call.bytes = time at htime hend
  refine ⟨rfl, h.rate_min, List.forall_mem_cons.2 ⟨hlate, h.late_le⟩, ?_, fun first last hwin => ?_⟩
  · refine List.forall_mem_cons.2 ⟨le_rfl, fun grant hgr => (h.deadline_le grant hgr).trans ?_⟩
    show g.limiter.nextAvailable ≤ next
    omega
  show passed (⟨call.bytes, next⟩ :: g.grants) first last * 1000000000 ≤ _
  by_cases hdue : first ≤ next ∧ next ≤ last
  · rw [passed_cons, if_pos hdue, Nat.add_mul]
    by_cases hfirst : first ≤ g.limiter.nextAvailable
    · -- the older grants end before the time reserved for the new one
      have hearlier := h.bounded first _ hfirst
      have hroom : rate * (g.limiter.nextAvailable - first) + rate * time
          ≤ rate * (last - first) := by
        rw [← Nat.mul_add]
        exact Nat.mul_le_mul_left _ (by omega)
      rw [passed_of_le h.deadline_le (by omega)]
      linarith
    · rw [passed_of_lt h.deadline_le (by omega)]
      linarith [Nat.zero_le (rate * (last - first))]
  · rw [passed_cons, if_neg hdue, Nat.zero_add]
    exact h.bounded first last hwin

/-- If no sleep ends later than `slack` behind its deadline, the bytes let pass in a window of time
are at most one buffer more than the rate admits in the window and the slack; and every call is
granted after one sleep, behind what is reserved. -/
theorem bandwidth_bounded (h : gateSystem.Run (Punctual slack) g)
    (hrate : g.limiter.bytesPerSecond = some rate) :
    (∀ first length, passed g.passes first (first + length) * 1000000000
      ≤ transferBufferBytes * 1000000000 + rate * (length + slack)) ∧
    ∀ call : AcquireCall, call.bytes ≤ transferBufferBytes → g.clock ≤ call.now →
      ∃ deadline, Admits rate g call deadline := by
  obtain ⟨rate', hinv⟩ : ∃ rate', Reserved rate' slack g := by
    refine h.invariant (I := fun a => ∃ rate', Reserved rate' slack a) ?_ ?_
    · rintro _ ⟨bits, now, hbits, rfl⟩
      exact ⟨bits / 8, rfl, by omega, by simp, by simp [grants],
        fun _ _ _ => by simp [passed, grants]⟩
    · rintro _ _ _ ⟨rate', hinv⟩ hlate hnext
      exact ⟨rate', hinv.step hlate hnext⟩
  obtain rfl : rate = rate' := Option.mem_unique hrate hinv.configured
  refine ⟨fun first length => ?_, fun _ => hinv.next⟩
  calc passed g.passes first (first + length) * 1000000000
      ≤ passed g.grants (first - slack) (first + length) * 1000000000 :=
        Nat.mul_le_mul_right _ (passed_delayed hinv.late_le first (first + length))
    _ ≤ transferBufferBytes * 1000000000 + rate * (first + length - (first - slack)) :=
        hinv.bounded _ _ (by omega)
    _ ≤ transferBufferBytes * 1000000000 + rate * (length + slack) :=
        Nat.add_le_add_left (Nat.mul_le_mul_left _ (by omega)) _

/-- Two connections call at one instant and sleep 16.384 and 32.768 seconds. Both pass in a
window of 20 seconds. -/
theorem two_buffers_bounded : ∃ g, gateSystem.Run (Punctual 0) g ∧ g.passages.length = 2 ∧
    passed g.passes 15000000000 35000000000 = 2 * transferBufferBytes ∧
    passed g.passes 15000000000 35000000000 * 1000000000
      ≤ transferBufferBytes * 1000000000 + 1000 * 20000000000 := by
  obtain ⟨g, hrun, hlen, hrate, hpassed⟩ := Machine.run_of_exec (M := gateSystem) (Punctual 0)
    (fun g => g.passages.length = 2 ∧ g.limiter.bytesPerSecond = some 1000 ∧
      passed g.passes 15000000000 35000000000 = 2 * transferBufferBytes)
    [⟨transferBufferBytes, 7, 0⟩, ⟨transferBufferBytes, 7, 0⟩]
    (s := ⟨.new (some 8000) 7, 7, []⟩) ⟨8000, 7, le_rfl, rfl⟩ (by decide)
  exact ⟨g, hrun, hlen, hpassed, (bandwidth_bounded hrun hrate).1 15000000000 20000000000⟩

/-- Two connections call at one instant. The timer of the first is late, and both buffers pass at
once. -/
theorem late_buffers_bunch : ∃ g, gateSystem.Reachable g ∧
    g.limiter.bytesPerSecond = some 1000 ∧
    ∃ instant, passed g.passes instant instant = 2 * transferBufferBytes := by
  obtain ⟨g, hrun, hrate, hpassed⟩ := Machine.run_of_exec (M := gateSystem) (fun _ _ => True)
    (fun g => g.limiter.bytesPerSecond = some 1000 ∧
      passed g.passes 32768000007 32768000007 = 2 * transferBufferBytes)
    [⟨transferBufferBytes, 7, 16384000000⟩, ⟨transferBufferBytes, 7, 0⟩]
    (s := ⟨.new (some 8000) 7, 7, []⟩) ⟨8000, 7, le_rfl, rfl⟩ (by decide)
  exact ⟨g, hrun, hrate, 32768000007, hpassed⟩

end AdmissionGate

end RealityConsole.NodeHost
