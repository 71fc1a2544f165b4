import RealityConsole.NodeHost.Admission

/-!
# The rate limiter of a relay route

All streams of a route share one limiter. `acquire` is a loop: an iteration refills the allowance
and takes the bytes, or empties the allowance and sleeps for the bytes that were missing. Times are
nanoseconds.

Source: `relay-server/src/flow.rs`.
-/

namespace RealityConsole.RelayServer

open Framework NodeHost

/-- `RateLimiter` with its `RateState` -/
structure RateLimiter where
  bytesPerSecond : Nat
  available : Nat
  updatedAt : Nat

namespace RateLimiter

def new (bytesPerSecond now : Nat) : RateLimiter := ⟨bytesPerSecond, bytesPerSecond, now⟩

/-- The refill at the start of an iteration, in `u128` and then in `u64`. -/
def replenish (l : RateLimiter) (now : Nat) : RateLimiter :=
  let product := min ((now - l.updatedAt) * l.bytesPerSecond) (2 ^ 128 - 1)
  let replenished := min (product / 1000000000) (2 ^ 64 - 1)
  { l with
    available := min (min (l.available + replenished) (2 ^ 64 - 1)) l.bytesPerSecond
    updatedAt := now }

/-- How long an iteration sleeps for the missing bytes. -/
def waitFor (l : RateLimiter) (missing : Nat) : Nat :=
  min (min (missing * 1000000000) (2 ^ 128 - 1) ⌈/⌉ l.bytesPerSecond) (2 ^ 64 - 1)

/-- An iteration of `acquire`: the limiter afterwards, and the sleep unless it grants the bytes. -/
def iterate (l : RateLimiter) (requested now : Nat) : RateLimiter × Option Nat :=
  let l := l.replenish now
  if requested ≤ l.available then ({ l with available := l.available - requested }, none)
  else ({ l with available := 0 }, some (l.waitFor (requested - l.available)))

/-- `acquire` of a sole caller whose sleeps are exact, for a number of iterations. -/
def acquire (l : RateLimiter) (requested now : Nat) : Nat → Option RateLimiter
  | 0 => none
  | n + 1 =>
    match l.iterate requested now with
    | (l, none) => some l
    | (l, some wait) => l.acquire requested (now + wait) n

variable {l : RateLimiter} {requested now missing : Nat}

/-- Neither saturation nor the clamp is seen in the refilled allowance. -/
theorem available_replenish (now : Nat) (hfits : l.bytesPerSecond < 2 ^ 64) :
    (l.replenish now).available
    = min (l.available + (now - l.updatedAt) * l.bytesPerSecond / 1000000000) l.bytesPerSecond := by
  unfold replenish
  dsimp only
  generalize (now - l.updatedAt) * l.bytesPerSecond = product
  omega

/-! ### Progress -/

/-- The allowance that an emptied limiter has after the sleep for missing bytes. A nanosecond may
be worth more than a byte, so this can be more than was missing. -/
def slept (l : RateLimiter) (missing : Nat) : Nat :=
  l.waitFor missing * l.bytesPerSecond / 1000000000

section Slept

variable (hpos : 0 < l.bytesPerSecond) (hfits : l.bytesPerSecond < 2 ^ 64)
  (hmiss : missing ≤ l.bytesPerSecond)

include hpos hfits hmiss

theorem waitFor_eq : l.waitFor missing = missing * 1000000000 ⌈/⌉ l.bytesPerSecond := by
  have hproduct : min (missing * 1000000000) (2 ^ 128 - 1) = missing * 1000000000 := by omega
  have hsec : missing * 1000000000 ⌈/⌉ l.bytesPerSecond ≤ 1000000000 := by
    rw [ceilDiv_le_iff_le_mul hpos]
    exact Nat.mul_le_mul_right _ hmiss
  rw [waitFor, hproduct, min_eq_left (by omega)]

/-- The sleep is the shortest that refills the missing bytes. -/
theorem waitFor_le_iff (wait : Nat) :
    l.waitFor missing ≤ wait ↔ missing ≤ wait * l.bytesPerSecond / 1000000000 := by
  rw [waitFor_eq hpos hfits hmiss, ceilDiv_le_iff_le_mul hpos,
    Nat.le_div_iff_mul_le (by decide), Nat.mul_comm wait]

theorem le_slept : missing ≤ l.slept missing :=
  (waitFor_le_iff hpos hfits hmiss _).1 le_rfl

theorem slept_le {other : Nat} (h : missing ≤ l.slept other) : l.slept missing ≤ l.slept other :=
  Nat.div_le_div_right
    (Nat.mul_le_mul_right _ ((waitFor_le_iff hpos hfits hmiss _).2 h))

/-- Below a byte a nanosecond a sleep refills what was missing and no more. -/
theorem slept_eq (hrate : l.bytesPerSecond ≤ 1000000000) : l.slept missing = missing := by
  refine le_antisymm ?_ (le_slept hpos hfits hmiss)
  rw [slept, waitFor_eq hpos hfits hmiss, Nat.ceilDiv_eq_add_pred_div]
  refine Nat.le_of_lt_succ ((Nat.div_lt_iff_lt_mul (by decide)).2 ?_)
  have hdiv := Nat.div_mul_le_self (missing * 1000000000 + l.bytesPerSecond - 1) l.bytesPerSecond
  omega

end Slept

theorem acquire_of_le (h : requested ≤ (l.replenish now).available) (n : Nat) :
    (l.acquire requested now (n + 1)).isSome := by
  rw [acquire, iterate, if_pos h]
  rfl

theorem acquire_of_lt (h : (l.replenish now).available < requested) (n : Nat) :
    l.acquire requested now (n + 1) = acquire ⟨l.bytesPerSecond, 0, now⟩ requested
      (now + l.waitFor (requested - (l.replenish now).available)) n := by
  rw [acquire, iterate, if_neg (Nat.not_le.2 h)]
  rfl

theorem available_slept (hfits : l.bytesPerSecond < 2 ^ 64) (updatedAt missing : Nat) :
    (replenish ⟨l.bytesPerSecond, 0, updatedAt⟩ (updatedAt + l.waitFor missing)).available
      = min (l.slept missing) l.bytesPerSecond := by
  rw [available_replenish _ (by exact hfits), Nat.add_sub_cancel_left, Nat.zero_add]
  rfl

/-- Two sleeps one after the other that do not refill the request repeat for ever: the second
leaves at most what the first found missing, so the third refills no more than the first. -/
theorem acquire_stuck (hpos : 0 < l.bytesPerSecond) (hfits : l.bytesPerSecond < 2 ^ 64)
    (hle : requested ≤ l.bytesPerSecond) (updatedAt n : Nat)
    (hfirst : l.slept missing < requested)
    (hsecond : l.slept (requested - l.slept missing) < requested) :
    acquire ⟨l.bytesPerSecond, 0, updatedAt⟩ requested (updatedAt + l.waitFor missing) n
      = none := by
  induction n generalizing updatedAt missing with
  | zero => rfl
  | succ n ih =>
    have hfound := available_slept hfits updatedAt missing
    rw [min_eq_left (by omega)] at hfound
    rw [acquire_of_lt (by omega), hfound]
    refine ih _ hsecond ((slept_le hpos hfits (by omega) ?_).trans_lt hfirst)
    have hrefill : requested - l.slept missing ≤ l.slept (requested - l.slept missing) :=
      le_slept hpos hfits (by omega)
    omega

/-- The refilled allowance covers the request at once or after one or two sleeps. -/
def Covers (l : RateLimiter) (requested now : Nat) : Prop :=
  let found := (l.replenish now).available
  requested ≤ found ∨ requested ≤ l.slept (requested - found) ∨
    requested ≤ l.slept (requested - l.slept (requested - found))

theorem acquire_of_covers (hfits : l.bytesPerSecond < 2 ^ 64) (hle : requested ≤ l.bytesPerSecond)
    (h : l.Covers requested now) : (l.acquire requested now 3).isSome := by
  by_cases hnow : requested ≤ (l.replenish now).available
  · exact acquire_of_le hnow 2
  rw [acquire_of_lt (by omega)]
  have hfound := available_slept hfits now (requested - (l.replenish now).available)
  by_cases hfirst : requested ≤ l.slept (requested - (l.replenish now).available)
  · exact acquire_of_le (hfound ▸ le_min hfirst hle) 1
  rw [min_eq_left (by omega)] at hfound
  rw [acquire_of_lt (by omega), hfound]
  have hsecond := (h.resolve_left hnow).resolve_left hfirst
  exact acquire_of_le ((le_min hsecond hle).trans_eq (available_slept hfits _ _).symm) 0

/-- `acquire` returns exactly if the allowance covers the request at once or after one or two
sleeps, and never sleeps more often. Up to a byte a nanosecond this says that the refilled allowance
is empty or covers the request. -/
theorem acquire_returns (hpos : 0 < l.bytesPerSecond) (hfits : l.bytesPerSecond < 2 ^ 64)
    (hle : requested ≤ l.bytesPerSecond) :
    ((∃ n, (l.acquire requested now n).isSome) ↔ l.Covers requested now) ∧
    (l.Covers requested now → (l.acquire requested now 3).isSome) ∧
    (l.bytesPerSecond ≤ 1000000000 → (l.Covers requested now ↔
      (l.replenish now).available = 0 ∨ requested ≤ (l.replenish now).available)) := by
  have hreturns : l.Covers requested now → _ := acquire_of_covers hfits hle
  refine ⟨⟨?_, fun h => ⟨3, hreturns h⟩⟩, hreturns, fun hrate => ?_⟩
  · rintro ⟨_ | n, hret⟩
    · cases hret
    by_contra hcov
    obtain ⟨hnow, hfirst, hsecond⟩ : _ ∧ _ ∧ _ := by simpa [Covers] using hcov
    rw [acquire_of_lt hnow, acquire_stuck hpos hfits hle now n hfirst hsecond] at hret
    cases hret
  · have hslept (missing : Nat) (hmiss : missing ≤ requested) : l.slept missing = missing :=
      slept_eq hpos hfits (hmiss.trans hle) hrate
    simp only [Covers, hslept _ (Nat.sub_le _ _)]
    omega

/-- A limiter of 10¹⁰ bytes a second with 3 bytes left grants 8 after a sleep of one nanosecond,
which refills 10, and one of 1.5 · 10⁹ with 2 left grants 3 after two. -/
theorem small_acquires_return :
    (∃ n, ((⟨10000000000, 3, 5⟩ : RateLimiter).acquire 8 5 n).isSome) ∧
    (∃ n, ((⟨1500000000, 2, 5⟩ : RateLimiter).acquire 3 5 n).isSome) := by
  refine ⟨(acquire_returns (by decide) (by decide) (by decide)).1.2 ?_,
    (acquire_returns (by decide) (by decide) (by decide)).1.2 ?_⟩
  · exact .inr (.inl (by decide))
  · exact .inr (.inr (by decide))

/-- With half of the allowance left the limiter never grants a request of all of it. -/
theorem half_acquire_never_returns :
    ¬∃ n, ((⟨1000, 500, 0⟩ : RateLimiter).acquire 1000 0 n).isSome := by
  rintro ⟨_ | n, hret⟩
  · cases hret
  have hstuck : acquire ⟨1000, 500, 0⟩ 1000 0 (n + 1) = none :=
    (acquire_of_lt (by decide) n).trans
      (acquire_stuck (by decide) (by decide) le_rfl 0 n (by decide) (by decide))
  rw [hstuck] at hret
  cases hret

end RateLimiter

/-! ### The bound -/

open AdmissionGate (passed passed_cons passed_of_le passed_of_lt)

/-- A limiter with what it granted, the latest first. -/
structure LimitedRoute where
  limiter : RateLimiter
  grants : List NodeHost.Grant

/-- Iterations of any callers, with the bytes requested and the clock read; the clock does not go
back. -/
def rateSystem (bytesPerSecond : Nat) : Machine LimitedRoute (Nat × Nat) where
  init w := bytesPerSecond < 2 ^ 64 ∧ ∃ now, w = ⟨.new bytesPerSecond now, []⟩
  next w := fun (requested, now) =>
    if now < w.limiter.updatedAt then none
    else
      match w.limiter.iterate requested now with
      | (limiter, none) => some ⟨limiter, ⟨requested, now⟩ :: w.grants⟩
      | (limiter, some _) => some ⟨limiter, w.grants⟩

namespace LimitedRoute

variable {rate : Nat} {w w' : LimitedRoute}

/-- The bytes granted since any time and those still allowed are within one second's bytes and those
of the time since. -/
structure Limited (rate : Nat) (w : LimitedRoute) : Prop where
  fits : rate < 2 ^ 64
  configured : w.limiter.bytesPerSecond = rate
  grants_le : ∀ grant ∈ w.grants, grant.deadline ≤ w.limiter.updatedAt
  since : ∀ first, passed w.grants first w.limiter.updatedAt + w.limiter.available
    ≤ rate + rate * (w.limiter.updatedAt - first) / 1000000000
  bounded : ∀ first last,
    passed w.grants first last ≤ rate + rate * (last - first) / 1000000000

theorem Limited.replenish (h : Limited rate w) (now : Nat) (hnow : w.limiter.updatedAt ≤ now) :
    Limited rate { w with limiter := w.limiter.replenish now } := by
  have havailable := RateLimiter.available_replenish now (h.configured ▸ h.fits)
  rw [h.configured] at havailable
  refine { h with
    grants_le := fun grant hgr => (h.grants_le grant hgr).trans hnow
    since := fun first => ?_ }
  show passed w.grants first now + (w.limiter.replenish now).available
    ≤ rate + rate * (now - first) / 1000000000
  by_cases hfirst : first ≤ w.limiter.updatedAt
  · have hsince := h.since first
    rw [passed_of_le h.grants_le hnow]
    have hsum : rate * (w.limiter.updatedAt - first) / 1000000000
        + (now - w.limiter.updatedAt) * rate / 1000000000 ≤ rate * (now - first) / 1000000000 := by
      have hparts : rate * (now - first) = rate * (w.limiter.updatedAt - first)
          + (now - w.limiter.updatedAt) * rate := by
        rw [Nat.mul_comm _ rate, ← Nat.mul_add]
        congr 1
        omega
      omega
    omega
  · rw [passed_of_lt h.grants_le (by omega)]
    omega

theorem Limited.step (h : Limited rate w) {label : Nat × Nat}
    (hstep : (rateSystem rate).next w label = some w') : Limited rate w' := by
  obtain ⟨requested, now⟩ := label
  simp only [rateSystem, RateLimiter.iterate] at hstep
  split at hstep
  · cases hstep
  have hrefill := h.replenish now (by omega)
  have hclock : (w.limiter.replenish now).updatedAt = now := rfl
  generalize w.limiter.replenish now = l at hstep hrefill hclock
  by_cases hcov : requested ≤ l.available
  · rw [if_pos hcov] at hstep
    cases hstep
    refine { hrefill with grants_le := ?_, since := ?_, bounded := ?_ }
    · simpa [hclock] using hrefill.grants_le
    · intro first
      have hsince := hrefill.since first
      rw [passed_cons]
      dsimp only at hsince ⊢
      split <;> omega
    · intro first last
      rw [passed_cons]
      split
      · rename_i hin
        -- the window goes up to the last grant, so the bytes since its start bound it
        have hsince := hrefill.since first
        have hwin : rate * (now - first) / 1000000000 ≤ rate * (last - first) / 1000000000 :=
          Nat.div_le_div_right (Nat.mul_le_mul_left _ (Nat.sub_le_sub_right hin.2 _))
        rw [passed_of_le hrefill.grants_le (hclock.trans_le hin.2)]
        dsimp only at hsince ⊢
        rw [hclock] at hsince ⊢
        omega
      · rw [Nat.zero_add]
        exact hrefill.bounded first last
  · rw [if_neg hcov] at hstep
    cases hstep
    exact { hrefill with
      since := fun first => (Nat.le_add_right _ _).trans (hrefill.since first) }

/-- In every run, however the callers interleave, the bytes granted in a window of time are at most
one second's bytes more than the rate admits in it, rounded up, and the allowance is at most one
second's bytes. -/
theorem granted_bounded (h : (rateSystem rate).Reachable w) :
    (∀ first length, passed w.grants first (first + length)
      ≤ rate + (rate * length + 999999999) / 1000000000) ∧ w.limiter.available ≤ rate := by
  have hinv : Limited rate w := by
    refine h.invariant ?_ fun _ _ _ ha _ => ha.step
    rintro _ ⟨hfits, now, rfl⟩
    exact ⟨hfits, rfl, by simp, by simp [passed, RateLimiter.new], by simp [passed]⟩
  refine ⟨fun first length => ?_, ?_⟩
  · have hbound := hinv.bounded first (first + length)
    rw [Nat.add_sub_cancel_left] at hbound
    omega
  · have hsince := hinv.since w.limiter.updatedAt
    rw [Nat.sub_self] at hsince
    omega

/-- Two callers at one instant, one of which has to wait. -/
theorem two_callers_bounded : ∃ w, (rateSystem 1000).Reachable w ∧ w.grants.length = 1 ∧
    passed w.grants 5 5 ≤ 1000 + (1000 * 0 + 999999999) / 1000000000 := by
  obtain ⟨w, hrun, hlen⟩ := Machine.run_of_exec (M := rateSystem 1000)
    (fun _ _ => True) (fun w => w.grants.length = 1) [(800, 5), (800, 5)] (s := ⟨.new 1000 5, []⟩)
    ⟨by decide, 5, rfl⟩ (by decide)
  exact ⟨w, hrun, hlen, (granted_bounded hrun).1 5 0⟩

end LimitedRoute

end RealityConsole.RelayServer
