import Mathlib.Algebra.Group.Nat.Defs
import Mathlib.Data.String.Lemmas

/-!
# Hexadecimal and UUID text

The canonical text of a number with a fixed count of lowercase hexadecimal
digits, and of a UUID: 32 digits in groups of 8, 4, 4, 4 and 12. Both texts
determine the value, so identifiers may be compared and used as names in either
form.
-/

namespace RealityConsole.Framework

/-! ### Digits -/

def hexDigit (n : Nat) : Char :=
  if n < 10 then Char.ofNat (48 + n) else Char.ofNat (87 + n)

/-- The value of a lowercase hexadecimal digit; other characters count as zero. -/
def hexValue (c : Char) : Nat :=
  if c.toNat < 87 then c.toNat - 48 else c.toNat - 87

/-- `u8::is_ascii_hexdigit` -/
def isHexDigit (c : Char) : Bool :=
  (48 ≤ c.toNat && c.toNat ≤ 57) || (65 ≤ c.toNat && c.toNat ≤ 70)
    || (97 ≤ c.toNat && c.toNat ≤ 102)

/-- The low `n` hexadecimal digits, the highest first. -/
def hexDigits : Nat → Nat → List Char
  | 0, _ => []
  | n + 1, x => hexDigits n (x / 16) ++ [hexDigit (x % 16)]

/-- The number that a text of digits writes. -/
def hexNumber (digits : List Char) : Nat :=
  digits.foldl (fun x c => 16 * x + hexValue c) 0

theorem hexValue_hexDigit : ∀ n < 16, hexValue (hexDigit n) = n := by decide

theorem isHexDigit_hexDigit : ∀ n < 16, isHexDigit (hexDigit n) := by decide

theorem toNat_lt_of_isHexDigit {c : Char} (h : isHexDigit c) : c.toNat < 128 := by
  simp only [isHexDigit, Bool.or_eq_true, Bool.and_eq_true, decide_eq_true_eq] at h
  omega

@[simp] theorem length_hexDigits (n x : Nat) : (hexDigits n x).length = n := by
  induction n generalizing x with
  | zero => rfl
  | succ n ih => simp [hexDigits, ih]

theorem of_mem_hexDigits {P : Char → Prop} (hP : ∀ n < 16, P (hexDigit n)) {n x : Nat} {c : Char}
    (h : c ∈ hexDigits n x) : P c := by
  induction n generalizing x with
  | zero => simp [hexDigits] at h
  | succ n ih =>
    rcases List.mem_append.1 h with hhigh | hlow
    · exact ih hhigh
    · rw [List.mem_singleton.1 hlow]
      exact hP _ (Nat.mod_lt _ (by decide))

variable {n x : Nat} {c : Char}

theorem isHexDigit_of_mem_hexDigits (h : c ∈ hexDigits n x) : isHexDigit c :=
  of_mem_hexDigits (P := (isHexDigit · = true)) isHexDigit_hexDigit h

theorem hexDigit_not_uppercase :
    ∀ n < 16, ¬(65 ≤ (hexDigit n).toNat ∧ (hexDigit n).toNat ≤ 90) := by
  decide

theorem not_uppercase_of_mem_hexDigits (h : c ∈ hexDigits n x) : ¬(65 ≤ c.toNat ∧ c.toNat ≤ 90) :=
  of_mem_hexDigits (P := fun c => ¬(65 ≤ c.toNat ∧ c.toNat ≤ 90)) hexDigit_not_uppercase h

theorem hexNumber_hexDigits (h : x < 16 ^ n) : hexNumber (hexDigits n x) = x := by
  induction n generalizing x with
  | zero => simp at h; simp [hexDigits, hexNumber, h]
  | succ n ih =>
    have hhigh : x / 16 < 16 ^ n := by
      rw [Nat.pow_succ] at h
      exact Nat.div_lt_of_lt_mul (by omega)
    have hlow := hexValue_hexDigit (x % 16) (Nat.mod_lt _ (by decide))
    have hnum := ih hhigh
    unfold hexNumber at hnum ⊢
    rw [hexDigits, List.foldl_append, hnum]
    simp only [List.foldl_cons, List.foldl_nil, hlow]
    omega

/-! ### UUIDs -/

abbrev Uuid := BitVec 128

instance decidableMemUuid (id : Uuid) (ids : List Uuid) : Decidable (id ∈ ids) := inferInstance

namespace Uuid

def grouped (digits : List Char) : List Char :=
  digits.take 8 ++ '-' :: ((digits.drop 8).take 4 ++ '-' :: ((digits.drop 12).take 4
    ++ '-' :: ((digits.drop 16).take 4 ++ '-' :: digits.drop 20)))

/-- The canonical hyphenated text. -/
def text (id : Uuid) : String := String.ofList (grouped (hexDigits 32 id.toNat))

/-- Reads a text that is the canonical text of an identifier. -/
def parse (text : String) : Option Uuid :=
  let id : Uuid := BitVec.ofNat 128 (hexNumber (text.toList.filter (· ≠ '-')))
  if id.text = text then some id else none

variable {digits : List Char}

theorem mem_grouped (h : c ∈ grouped digits) : c ∈ digits ∨ c = '-' := by
  simp only [grouped, List.mem_append, List.mem_cons] at h
  rcases h with h | h | h | h | h | h | h | h | h
  · exact .inl (List.mem_of_mem_take h)
  · exact .inr h
  · exact .inl (List.mem_of_mem_drop (List.mem_of_mem_take h))
  · exact .inr h
  · exact .inl (List.mem_of_mem_drop (List.mem_of_mem_take h))
  · exact .inr h
  · exact .inl (List.mem_of_mem_drop (List.mem_of_mem_take h))
  · exact .inr h
  · exact .inl (List.mem_of_mem_drop h)

theorem filter_grouped (h : '-' ∉ digits) : (grouped digits).filter (· ≠ '-') = digits := by
  have hkeep : ∀ l : List Char, (∀ c ∈ l, c ∈ digits) → l.filter (· ≠ '-') = l := by
    intro l hl
    refine List.filter_eq_self.2 fun c hc => ?_
    have hne : c ≠ '-' := fun heq => h (heq ▸ hl c hc)
    simpa using hne
  have htake : ∀ i j, ((digits.drop i).take j).filter (· ≠ '-') = (digits.drop i).take j :=
    fun i j => hkeep _ fun c hc => List.mem_of_mem_drop (List.mem_of_mem_take hc)
  have hfirst := hkeep (digits.take 8) fun c hc => List.mem_of_mem_take hc
  have hlast := hkeep (digits.drop 20) fun c hc => List.mem_of_mem_drop hc
  have hhyphen : ∀ l : List Char, ('-' :: l).filter (· ≠ '-') = l.filter (· ≠ '-') := by
    intro l
    simp
  have hjoin : ∀ i j, (digits.drop i).take j ++ digits.drop (i + j) = digits.drop i := by
    intro i j
    rw [← List.drop_drop, List.take_append_drop]
  rw [grouped]
  simp only [List.filter_append, hhyphen, htake, hfirst, hlast]
  rw [hjoin 16 4, hjoin 12 4, hjoin 8 4, List.take_append_drop]

theorem hyphen_notMem_hexDigits (n x : Nat) : '-' ∉ hexDigits n x := by
  intro hmem
  exact absurd (isHexDigit_of_mem_hexDigits hmem) (by decide)

theorem length_grouped (h : digits.length = 32) : (grouped digits).length = 36 := by
  simp only [grouped, List.length_append, List.length_cons, List.length_take, List.length_drop, h]
  decide

@[simp] theorem length_text (id : Uuid) : id.text.length = 36 := by
  rw [text, String.length_ofList, length_grouped (length_hexDigits _ _)]

/-- Identifier texts consist of hexadecimal digits and hyphens. -/
theorem mem_text {id : Uuid} (h : c ∈ id.text.toList) : isHexDigit c ∨ c = '-' := by
  rw [text, String.toList_ofList] at h
  rcases mem_grouped h with hdig | hhyphen
  · exact .inl (isHexDigit_of_mem_hexDigits hdig)
  · exact .inr hhyphen

theorem not_uppercase_of_mem_text {id : Uuid} (h : c ∈ id.text.toList) :
    ¬(65 ≤ c.toNat ∧ c.toNat ≤ 90) := by
  rw [text, String.toList_ofList] at h
  rcases mem_grouped h with hdig | rfl
  · exact not_uppercase_of_mem_hexDigits hdig
  · decide

theorem getLast?_text (id : Uuid) :
    ∃ c, id.text.toList.getLast? = some c ∧ isHexDigit c := by
  have hne : (hexDigits 32 id.toNat).drop 20 ≠ [] := by
    rw [ne_eq, List.drop_eq_nil_iff, length_hexDigits]
    decide
  obtain ⟨c, hc⟩ := Option.ne_none_iff_exists'.1 (mt List.getLast?_eq_none_iff.1 hne)
  refine ⟨c, ?_, isHexDigit_of_mem_hexDigits (List.mem_of_mem_drop (List.mem_of_getLast? hc))⟩
  rw [text, String.toList_ofList, grouped]
  simp only [List.getLast?_append, List.getLast?_cons, hc]
  rfl

@[simp] theorem parse_text (id : Uuid) : parse id.text = some id := by
  have hdigs : id.text.toList.filter (· ≠ '-') = hexDigits 32 id.toNat := by
    rw [text, String.toList_ofList, filter_grouped (hyphen_notMem_hexDigits _ _)]
  have hnum : hexNumber (hexDigits 32 id.toNat) = id.toNat :=
    hexNumber_hexDigits (lt_of_lt_of_eq id.isLt (by decide))
  have hid : BitVec.ofNat 128 (hexNumber (id.text.toList.filter (· ≠ '-'))) = id := by
    rw [hdigs, hnum, BitVec.ofNat_toNat, BitVec.setWidth_eq]
  simp only [parse, hid]
  exact if_pos trivial

theorem text_of_parse {s : String} {id : Uuid} (h : parse s = some id) : id.text = s := by
  simp only [parse] at h
  split at h
  · rename_i htext
    cases h
    exact htext
  · cases h

theorem text_injective : Function.Injective text := by
  intro a b h
  have hparse := congrArg parse h
  simpa using hparse

-- the lemmas above are all that is used of the texts
attribute [irreducible] text parse

end Uuid

end RealityConsole.Framework
