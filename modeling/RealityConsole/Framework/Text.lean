import Mathlib.Data.String.Lemmas

/-!
# Texts

Character classes, the relation between the two lengths of a text (bytes, in which protocols bound
it, and characters, in which a database bounds it), and the numbers that texts write.
-/

namespace RealityConsole.Framework

/-- The Unicode class Cc of control characters. -/
def isControl (c : Char) : Bool :=
  c.toNat ≤ 0x1f || (0x7f ≤ c.toNat && c.toNat ≤ 0x9f)

/-- The Unicode property White_Space. -/
def isWhitespace (c : Char) : Bool :=
  (0x9 ≤ c.toNat && c.toNat ≤ 0xd) || c.toNat = 0x20 || c.toNat = 0x85 || c.toNat = 0xa0
    || c.toNat = 0x1680 || (0x2000 ≤ c.toNat && c.toNat ≤ 0x200a) || c.toNat = 0x2028
    || c.toNat = 0x2029 || c.toNat = 0x202f || c.toNat = 0x205f || c.toNat = 0x3000

theorem length_le_utf8ByteSize (s : String) : s.length ≤ s.utf8ByteSize := by
  have hchars : ∀ l : List Char, l.length ≤ (String.ofList l).utf8ByteSize := by
    intro l
    induction l with
    | nil => simp
    | cons c l ih =>
      rw [String.ofList_cons, String.utf8ByteSize_append, String.utf8ByteSize_singleton]
      have hc := c.utf8Size_pos
      simp only [List.length_cons]
      omega
  have h := hchars s.toList
  rwa [String.ofList_toList, String.length_toList] at h

theorem utf8ByteSize_eq_length {s : String} (h : ∀ c ∈ s.toList, c.toNat < 128) :
    s.utf8ByteSize = s.length := by
  have hchars : ∀ l : List Char, (∀ c ∈ l, c.toNat < 128) →
      (String.ofList l).utf8ByteSize = l.length := by
    intro l
    induction l with
    | nil => simp
    | cons c l ih =>
      intro hl
      have hc : c.utf8Size = 1 := by
        have hlt := hl c (.head _)
        unfold Char.utf8Size
        have hval : c.val ≤ 0x7f := UInt32.le_iff_toNat_le.2 (by simpa using Nat.le_of_lt_succ hlt)
        simp [hval]
      have hrest := ih fun d hd => hl d (List.mem_cons_of_mem c hd)
      rw [String.ofList_cons, String.utf8ByteSize_append, String.utf8ByteSize_singleton, hc, hrest,
        List.length_cons]
      omega
  have hs := hchars s.toList h
  rwa [String.ofList_toList, String.length_toList] at hs

theorem length_pos_of_ne_empty {s : String} (h : s ≠ "") : 0 < s.length := by
  rcases Nat.eq_zero_or_pos s.length with hzero | hpos
  · exact absurd (String.length_eq_zero_iff.1 hzero) h
  · exact hpos

/-! ### Numbers -/

/-- The number that decimal digits write, if there are any and it is below a bound. -/
def parseDigits (bound : Nat) (digits : List Char) : Option Nat :=
  if digits ≠ [] ∧ digits.all Char.isDigit ∧ Nat.ofDigitChars 10 digits 0 < bound then
    some (Nat.ofDigitChars 10 digits 0)
  else none

/-- `from_str` of an unsigned type: digits after an optional plus sign. -/
def parseUnsigned (bound : Nat) (text : List Char) : Option Nat :=
  parseDigits bound (if text.head? = some '+' then text.tail else text)

/-- `from_str` of a signed type, whose least number is minus the bound. -/
def parseSigned (bound : Nat) (text : List Char) : Option Int :=
  if text.head? = some '-' then (parseDigits (bound + 1) text.tail).map fun n => -(n : Int)
  else (parseUnsigned bound text).map Int.ofNat

variable {bound n : Nat} {text : List Char}

theorem parseDigits_some (h : parseDigits bound text = some n) :
    n < bound ∧ n = Nat.ofDigitChars 10 text 0 := by
  obtain ⟨⟨-, -, hlt⟩, ⟨⟩⟩ := Option.ite_none_right_eq_some.1 h
  exact ⟨hlt, rfl⟩

theorem head?_ne_of_digits (h : ∀ c ∈ text, c.isDigit = true) {sign : Char}
    (hsign : sign.isDigit = false) : text.head? ≠ some sign := by
  intro hhead
  have hdigit := h sign (List.mem_of_mem_head? hhead)
  rw [hsign] at hdigit
  cases hdigit

theorem parseUnsigned_digits (h : ∀ c ∈ text, c.isDigit = true) :
    parseUnsigned bound text = parseDigits bound text := by
  rw [parseUnsigned, if_neg (head?_ne_of_digits h (by decide))]

theorem parseSigned_toDigits (h : n < bound) : parseSigned bound (Nat.toDigits 10 n) = some ↑n := by
  have hdigits : ∀ c ∈ Nat.toDigits 10 n, c.isDigit = true :=
    fun c => Nat.isDigit_of_mem_toDigits (by decide) (by decide)
  have hvalue : Nat.ofDigitChars 10 (Nat.toDigits 10 n) 0 = n :=
    Nat.ofDigitChars_toDigits (by decide) (by decide)
  have hsome : Nat.toDigits 10 n ≠ [] := List.ne_nil_of_length_pos Nat.length_toDigits_pos
  rw [parseSigned, if_neg (head?_ne_of_digits hdigits (by decide)), parseUnsigned_digits hdigits,
    parseDigits, hvalue, if_pos ⟨hsome, List.all_eq_true.2 hdigits, h⟩]
  rfl

end RealityConsole.Framework
