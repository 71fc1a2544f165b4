import Mathlib.Data.Prod.Lex
import Mathlib.Tactic.Ring

/-!
# Calendar months

The month of the proleptic Gregorian calendar that a day falls in, for days before and after the
epoch. Later days are in the same month or a later one, and after 31 days the month has changed.
-/

namespace RealityConsole.Framework

def yearOfEra (dayOfEra : Int) : Int :=
  (dayOfEra - dayOfEra / 1460 + dayOfEra / 36524 - dayOfEra / 146096) / 365

/-- The day of the year that begins on 1 March. -/
def dayOfYear (dayOfEra : Int) : Int :=
  dayOfEra - (365 * yearOfEra dayOfEra + yearOfEra dayOfEra / 4 - yearOfEra dayOfEra / 100)

/-- The month of a day of an era, counted from March of its first year. -/
def monthOfEra (dayOfEra : Int) : Int :=
  12 * yearOfEra dayOfEra + (5 * dayOfYear dayOfEra + 2) / 153

/-- The number of the month of a day since the epoch, counted from March of year 0. -/
def monthCount (day : Int) : Int :=
  4800 * ((day + 719468) / 146097) + monthOfEra ((day + 719468) % 146097)

/-- A year and a month, in the order of time. -/
abbrev MonthKey := Int ×ₗ Int

/-- Year and month of the day with the given number since the epoch. -/
def civilMonth (day : Int) : MonthKey :=
  toLex ((monthCount day + 2) / 12, (monthCount day + 2) % 12 + 1)

/-! ### Days of an era -/

section Era

variable {day day' : Int}

/-- In the first three centuries of an era the quotients of the formula name the century. -/
theorem century_bounds {century fours year : Int} (hcen : century = day / 36524)
    (hmin : 0 ≤ century) (hmax : century ≤ 3) (hfours : fours = day / 1460)
    (hyear : year = (day - fours + century) / 365) :
    100 * century ≤ year ∧ year ≤ 100 * century + 99 := by
  have hcs : century = 0 ∨ century = 1 ∨ century = 2 ∨ century = 3 := by omega
  rcases hcs with rfl | rfl | rfl | rfl <;> omega

theorem yearOfEra_bounds (hmin : 0 ≤ day) (hmax : day < 146097) :
    (0 ≤ yearOfEra day ∧ yearOfEra day ≤ 399) ∧ 0 ≤ dayOfYear day ∧ dayOfYear day ≤ 365 := by
  by_cases hlast : day = 146096
  · subst hlast
    decide
  obtain ⟨century, hcen⟩ : ∃ century, century = day / 36524 := ⟨_, rfl⟩
  obtain ⟨fours, hfours⟩ : ∃ fours, fours = day / 1460 := ⟨_, rfl⟩
  obtain ⟨year, hyear⟩ : ∃ year, year = (day - fours + century) / 365 := ⟨_, rfl⟩
  have hformula : yearOfEra day = year := by
    unfold yearOfEra
    rw [hyear, hfours, hcen, show day / 146096 = 0 by omega, sub_zero]
  obtain ⟨hlow, hhigh⟩ := century_bounds hcen (by omega) (by omega) hfours hyear
  have hhundreds : year / 100 = century := by omega
  have hcs : century = 0 ∨ century = 1 ∨ century = 2 ∨ century = 3 := by omega
  -- the leap days before the year, and with it
  have hbef : year / 4 ≤ fours := by rcases hcs with rfl | rfl | rfl | rfl <;> omega
  have hwith : fours ≤ (year + 1) / 4 := by rcases hcs with rfl | rfl | rfl | rfl <;> omega
  unfold dayOfYear
  rw [hformula, hhundreds]
  refine ⟨⟨?_, ?_⟩, ?_, ?_⟩ <;> omega

theorem yearOfEra_mono (hmin : 0 ≤ day) (hle : day ≤ day') (hmax : day' < 146097) :
    yearOfEra day ≤ yearOfEra day' := by
  unfold yearOfEra
  apply Int.ediv_le_ediv (by decide)
  by_cases hlast : day' = 146096
  · subst hlast
    omega
  have hcen : day / 36524 ≤ day' / 36524 := by omega
  have hfours : day - day / 1460 ≤ day' - day' / 1460 := by omega
  omega

theorem monthOfEra_bounds (hmin : 0 ≤ day) (hmax : day < 146097) :
    0 ≤ monthOfEra day ∧ monthOfEra day < 4800 := by
  obtain ⟨⟨hyear, hyear'⟩, hday, hday'⟩ := yearOfEra_bounds hmin hmax
  unfold monthOfEra
  constructor <;> omega

theorem monthOfEra_mono (hmin : 0 ≤ day) (hle : day ≤ day') (hmax : day' < 146097) :
    monthOfEra day ≤ monthOfEra day' := by
  have hmono := yearOfEra_mono hmin hle hmax
  obtain ⟨-, hday, hlast⟩ := yearOfEra_bounds hmin (hle.trans_lt hmax)
  obtain ⟨-, hday', -⟩ := yearOfEra_bounds (hmin.trans hle) hmax
  unfold monthOfEra
  rcases hmono.lt_or_eq with hlt | heq
  · omega
  have hdays : dayOfYear day ≤ dayOfYear day' := by
    unfold dayOfYear
    rw [heq]
    omega
  omega

theorem monthOfEra_lt (hmin : 0 ≤ day) (hle : day + 31 ≤ day') (hmax : day' < 146097) :
    monthOfEra day < monthOfEra day' := by
  have hmono := yearOfEra_mono hmin (by omega) hmax
  obtain ⟨-, hday, hlast⟩ := yearOfEra_bounds hmin (by omega)
  obtain ⟨-, hday', -⟩ := yearOfEra_bounds (by omega : 0 ≤ day') hmax
  unfold monthOfEra
  rcases hmono.lt_or_eq with hlt | heq
  · omega
  have hdays : dayOfYear day + 31 ≤ dayOfYear day' := by
    unfold dayOfYear
    rw [heq]
    omega
  omega

end Era

/-! ### Days since the epoch -/

variable {day day' : Int}

theorem monthCount_lt_or_era (hle : day ≤ day') : monthCount day < monthCount day' ∨
    ∃ first last, 0 ≤ first ∧ last < 146097 ∧ last - first = day' - day ∧
      monthCount day' - monthCount day = monthOfEra last - monthOfEra first := by
  have hnonneg : ∀ n : Int, 0 ≤ n % 146097 := fun n => Int.emod_nonneg n (by decide)
  have hlt : ∀ n : Int, n % 146097 < 146097 := fun n => Int.emod_lt_of_pos n (by decide)
  have hmon := monthOfEra_bounds (hnonneg (day + 719468)) (hlt _)
  have hmon' := monthOfEra_bounds (hnonneg (day' + 719468)) (hlt _)
  have hera : (day + 719468) / 146097 ≤ (day' + 719468) / 146097 := by omega
  unfold monthCount
  rcases hera.lt_or_eq with hbef | hsame
  · left
    omega
  right
  exact ⟨(day + 719468) % 146097, (day' + 719468) % 146097, hnonneg _, hlt _, by omega,
    by omega⟩

theorem monthCount_mono (hle : day ≤ day') : monthCount day ≤ monthCount day' := by
  rcases monthCount_lt_or_era hle with hlt | ⟨first, last, hfirst, hlast, hdays, hmonths⟩
  · exact hlt.le
  · have := monthOfEra_mono hfirst (by omega : first ≤ last) hlast
    omega

theorem monthCount_lt (hle : day + 31 ≤ day') : monthCount day < monthCount day' := by
  rcases monthCount_lt_or_era (by omega : day ≤ day') with
    hlt | ⟨first, last, hfirst, hlast, hdays, hmonths⟩
  · exact hlt
  · have := monthOfEra_lt hfirst (by omega : first + 31 ≤ last) hlast
    omega

theorem civilMonth_lt_iff :
    civilMonth day < civilMonth day' ↔ monthCount day < monthCount day' := by
  unfold civilMonth
  rw [Prod.Lex.toLex_lt_toLex]
  constructor <;> intro h <;> omega

theorem civilMonth_mono (hle : day ≤ day') : civilMonth day ≤ civilMonth day' := by
  by_contra hlt
  have hcount := civilMonth_lt_iff.1 (lt_of_not_ge hlt)
  have := monthCount_mono hle
  omega

theorem civilMonth_lt (hle : day + 31 ≤ day') : civilMonth day < civilMonth day' :=
  civilMonth_lt_iff.2 (monthCount_lt hle)

example : civilMonth 20645 = toLex (2026, 7) := by decide

end RealityConsole.Framework
