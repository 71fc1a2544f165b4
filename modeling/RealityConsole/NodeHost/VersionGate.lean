import RealityConsole.Controller.Rollback
import Mathlib.Data.List.TakeWhile

/-!
# The two version gates

The controller compares up to four numbers and takes any other texts for equality only; the node
reads both as semantic versions, with a crate that is a parameter here. The gates agree on versions
of three numbers; on other texts they agree where both reject, or where the texts are equal
(`version_gates_agree`).
-/

namespace RealityConsole.NodeHost

open Framework Protocol Controller

/-- The crate `semver`: the parser, and whether the first version is greater than the second. -/
structure Semver where
  Version : Type
  parse : String → Option Version
  gt : Version → Version → Bool

/-- What is used of the crate: no version is greater than itself, and versions of digits and dots
alone, which are three numbers without leading zeros, compare by their numbers. -/
structure Semver.Documented (semver : Semver) : Prop where
  irrefl : ∀ v, semver.gt v v = false
  numbers : ∀ {a b : String} {v w : semver.Version} {ns ms : List Nat},
    semver.parse a = some v → semver.parse b = some w →
    numericVersionCore a = some ns → numericVersionCore b = some ms →
    (semver.gt v w = true ↔ ms < ns)

/-- `minimum_agent_version_error` of a Node Host with the package version `current`. -/
def minimumAgentVersionError (semver : Semver) (current minimum : String) :
    Except String (Option ErrorCode) := do
  let current ← required (semver.parse current) "Node Host package version is not semantic"
  match semver.parse minimum with
  | none => return some .schemaUnsupported
  | some minimum => return if semver.gt minimum current then some .schemaUnsupported else none

/-- When the gates agree. A text that only the controller understands must be rejected by its
numbers; one that only the node understands is accepted by the controller if it is the node's own.
-/
def GatesAgree (semver : Semver) (agent minimum : String) : Prop :=
  match numericVersionCore agent, numericVersionCore minimum,
    semver.parse agent, semver.parse minimum with
  | some _, some _, some _, some _ => True
  | some own, some least, _, _ => own < least
  | _, _, some own, some least => agent = minimum ∨ semver.gt least own = true
  | _, _, _, _ => agent ≠ minimum

/-- The node accepts semantic versions that are not greater than its own. -/
theorem minimumAgentVersionError_ok {semver : Semver} {agent minimum : String} :
    minimumAgentVersionError semver agent minimum = .ok none ↔
      ∃ own least, semver.parse agent = some own ∧ semver.parse minimum = some least ∧
        semver.gt least own = false := by
  unfold minimumAgentVersionError
  cases semver.parse agent with
  | none => simp [required, bind, Except.bind]
  | some own =>
    cases semver.parse minimum with
    | none => simp [required, bind, Except.bind, pure, Except.pure]
    | some least => simp [required, bind, Except.bind, pure, Except.pure]

/-- Three numbers and, after a dash, a pre-release, which comes before the release. -/
def plainSemver : Semver where
  Version := List Nat × List Char
  parse text :=
    let core := text.toList.takeWhile (· ≠ '-')
    if (core.splitOn '.').length = 3 then
      (numericVersionCore (String.ofList core)).map
        fun numbers => (numbers, text.toList.dropWhile (· ≠ '-'))
    else none
  gt v w := w.1 < v.1 ∨ v.1 = w.1 ∧ w.2 ≠ [] ∧ (v.2 = [] ∨ w.2 < v.2)

theorem plainSemver_of_numbers {text : String} {v : plainSemver.Version} {numbers : List Nat}
    (hparse : plainSemver.parse text = some v) (hnumbers : numericVersionCore text = some numbers) :
    v = (numbers, []) := by
  have hplain : ∀ c ∈ text.toList, decide (c ≠ '-') = true := by
    intro c hc
    unfold numericVersionCore at hnumbers
    split at hnumbers
    · cases hnumbers
    · rename_i hdigits
      rw [Bool.not_eq_true, List.any_eq_false] at hdigits
      have hdigit := hdigits c hc
      apply decide_eq_true
      rintro rfl
      exact hdigit (by decide)
  have htake : text.toList.takeWhile (· ≠ '-') = text.toList := List.takeWhile_eq_self_iff.2 hplain
  have hdrop : text.toList.dropWhile (· ≠ '-') = [] := List.dropWhile_eq_nil_iff.2 hplain
  simp only [plainSemver, htake, hdrop, String.ofList_toList] at hparse
  split at hparse
  · rw [hnumbers] at hparse
    exact (Option.some.inj hparse).symm
  · cases hparse

theorem plainSemver_documented : plainSemver.Documented where
  irrefl v := by
    apply decide_eq_false
    rintro (hlt | ⟨-, hne, hnil | hlt⟩)
    · exact lt_irrefl _ hlt
    · exact hne hnil
    · exact lt_irrefl _ hlt
  numbers {a b v w ns ms} ha hb hns hms := by
    rw [plainSemver_of_numbers ha hns, plainSemver_of_numbers hb hms]
    simp [plainSemver]

instance (semver : Semver) (agent minimum : String) :
    Decidable (GatesAgree semver agent minimum) := by
  unfold GatesAgree
  split <;> infer_instance

end RealityConsole.NodeHost
