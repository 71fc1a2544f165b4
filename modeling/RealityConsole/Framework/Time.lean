import RealityConsole.Framework.Json

/-!
# Timestamps as text

Whole seconds since the epoch as an RFC 3339 text in UTC. Up to the end of the
year 9999 the text has twenty characters.
-/

namespace RealityConsole.Framework

/-- A number with a fixed count of decimal digits. -/
def paddedDecimal : Nat → Nat → List Char
  | 0, _ => []
  | width + 1, n => paddedDecimal width (n / 10) ++ [Char.ofNat (48 + n % 10)]

@[simp] theorem length_paddedDecimal (width n : Nat) : (paddedDecimal width n).length = width := by
  induction width generalizing n with
  | zero => rfl
  | succ width ih => simp [paddedDecimal, ih]

theorem isPlain_decimalDigit : ∀ n < 10, Json.isPlain (Char.ofNat (48 + n)) := by decide

theorem isPlain_of_mem_paddedDecimal {width n : Nat} {c : Char} (h : c ∈ paddedDecimal width n) :
    Json.isPlain c := by
  induction width generalizing n with
  | zero => simp [paddedDecimal] at h
  | succ width ih =>
    rcases List.mem_append.1 h with hhigh | hlow
    · exact ih hhigh
    · rw [List.mem_singleton.1 hlow]
      exact isPlain_decimalDigit _ (Nat.mod_lt _ (by decide))

/-- Year, month and day of the day with the given number since the epoch. -/
def civilDate (day : Nat) : Nat × Nat × Nat :=
  -- days are counted from 1 March of year 0, so that leap days come last
  let days := day + 719468
  let era := days / 146097
  let dayOfEra := days % 146097
  let yearOfEra := (dayOfEra - dayOfEra / 1460 + dayOfEra / 36524 - dayOfEra / 146096) / 365
  let dayOfYear := dayOfEra - (365 * yearOfEra + yearOfEra / 4 - yearOfEra / 100)
  let monthFromMarch := (5 * dayOfYear + 2) / 153
  let month := if monthFromMarch < 10 then monthFromMarch + 3 else monthFromMarch - 9
  (era * 400 + yearOfEra + (if month ≤ 2 then 1 else 0), month,
    dayOfYear - (153 * monthFromMarch + 2) / 5 + 1)

def rfc3339 (seconds : Nat) : List Char :=
  let (year, month, day) := civilDate (seconds / 86400)
  paddedDecimal 4 year ++ '-' :: (paddedDecimal 2 month ++ '-' :: (paddedDecimal 2 day ++ 'T' ::
    (paddedDecimal 2 (seconds / 3600 % 24) ++ ':' :: (paddedDecimal 2 (seconds / 60 % 60) ++ ':' ::
      (paddedDecimal 2 (seconds % 60) ++ ['Z'])))))

example : rfc3339 1783800000 = "2026-07-11T20:00:00Z".toList := by decide

@[simp] theorem length_rfc3339 (seconds : Nat) : (rfc3339 seconds).length = 20 := by simp [rfc3339]

theorem isPlain_of_mem_rfc3339 {seconds : Nat} {c : Char} (h : c ∈ rfc3339 seconds) :
    Json.isPlain c := by
  have hpunctuation : ∀ d ∈ ['-', 'T', ':', 'Z'], Json.isPlain d = true :=
    List.all_eq_true.1 (by decide)
  simp only [rfc3339, List.mem_append, List.mem_cons, List.not_mem_nil, or_false] at h
  rcases h with h | h | h | h | h | h | h | h | h | h | h | h
  all_goals first
    | exact isPlain_of_mem_paddedDecimal h
    | exact hpunctuation c (by simp [h])

end RealityConsole.Framework
