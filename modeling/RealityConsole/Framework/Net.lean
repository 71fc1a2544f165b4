import Mathlib.Algebra.Group.Nat.Defs
import RealityConsole.Framework.Uuid

/-!
# Addresses and host names

Internet addresses, the literals that name them and the labels of a DNS name. A
reader of a literal returns what it leaves of the text, so that a literal is a
text the reader consumes as a whole.
-/

namespace RealityConsole.Framework

/-! ### Addresses -/

inductive IpAddr where
  | v4 (bits : BitVec 32)
  | v6 (bits : BitVec 128)
  deriving DecidableEq, Repr

/-- The loopback network `127.0.0.0/8`, or the address `::1`. -/
def IpAddr.isLoopback : IpAddr → Bool
  | v4 bits => bits.toNat / 2 ^ 24 = 127
  | v6 bits => bits.toNat = 1

structure SocketAddr where
  ip : IpAddr
  port : Nat
  deriving DecidableEq, Repr

/-! ### Address literals -/

def isDecimalDigit (c : Char) : Bool := 48 ≤ c.toNat && c.toNat ≤ 57

def isLowercase (c : Char) : Bool := 97 ≤ c.toNat && c.toNat ≤ 122

def isUppercase (c : Char) : Bool := 65 ≤ c.toNat && c.toNat ≤ 90

def isAlphanumeric (c : Char) : Bool := isDecimalDigit c || isLowercase c || isUppercase c

theorem isAlphanumeric_of_isHexDigit {c : Char} (h : isHexDigit c) :
    isAlphanumeric c := by
  simp only [isHexDigit, isAlphanumeric, isDecimalDigit, isLowercase, isUppercase,
    Bool.or_eq_true, Bool.and_eq_true, decide_eq_true_eq] at h ⊢
  omega

def decimalNumber (digits : List Char) : Nat :=
  digits.foldl (fun x c => 10 * x + (c.toNat - 48)) 0

def readOctet (cs : List Char) : Option (List Char) :=
  let digits := cs.takeWhile isDecimalDigit
  if digits ≠ [] ∧ digits.length ≤ 3 ∧ (digits.head? = some '0' → digits.length = 1)
      ∧ decimalNumber digits ≤ 255 then
    some (cs.dropWhile isDecimalDigit)
  else none

def readGroup (cs : List Char) : Option (List Char) :=
  let digits := cs.takeWhile isHexDigit
  if digits ≠ [] ∧ digits.length ≤ 4 then some (cs.dropWhile isHexDigit) else none

def readChar (c : Char) : List Char → Option (List Char)
  | [] => none
  | d :: cs => if d = c then some cs else none

/-- Four octets with dots between them. -/
def readIpv4 (cs : List Char) : Option (List Char) :=
  (readOctet cs).bind fun cs => (readChar '.' cs).bind fun cs =>
  (readOctet cs).bind fun cs => (readChar '.' cs).bind fun cs =>
  (readOctet cs).bind fun cs => (readChar '.' cs).bind readOctet

/-- Reads with a colon before it, unless it is the first group. -/
def readSeparated (first : Bool) (read : List Char → Option (List Char)) (cs : List Char) :
    Option (List Char) :=
  if first then read cs else (readChar ':' cs).bind read

/-- At most `limit` groups of an IPv6 literal: how many were read, whether the last two were an
embedded IPv4 literal, and the rest. -/
def readGroups : Nat → Nat → List Char → Nat × Bool × List Char
  | 0, i, cs => (i, false, cs)
  | limit + 1, i, cs =>
    match (if 0 < limit then readSeparated (i = 0) readIpv4 cs else none) with
    | some rest => (i + 2, true, rest)
    | none =>
      match readSeparated (i = 0) readGroup cs with
      | some rest => readGroups limit (i + 1) rest
      | none => (i, false, cs)

/-- Eight groups, or fewer groups with one `::` that stands for at least one. -/
def readIpv6 (cs : List Char) : Option (List Char) :=
  let (head, embedded, rest) := readGroups 8 0 cs
  if head = 8 then some rest
  else if embedded then none
  else (readChar ':' rest).bind fun rest => (readChar ':' rest).bind fun rest =>
    some (readGroups (7 - head) 0 rest).2.2

/-- The text is an address literal (`IpAddr::from_str` accepts it). -/
def isIpLiteral (text : String) : Bool :=
  readIpv4 text.toList = some [] || readIpv6 text.toList = some []

example : isIpLiteral "203.0.113.7" = true ∧ isIpLiteral "2001:db8::1" = true
    ∧ isIpLiteral "::ffff:192.0.2.1" = true ∧ isIpLiteral "192.0.2.01" = false
    ∧ isIpLiteral "1:2:3:4:5:6:7::8" = false ∧ isIpLiteral "relay.test" = false := by decide

/-! ### Names -/

/-- The parts of a text between the dots. -/
def dotLabels (text : String) : List (List Char) := text.toList.splitOn '.'

/-- A label that neither begins nor ends with a hyphen, of 1 to 63 accepted characters. -/
def isLabel (accepted : Char → Bool) (label : List Char) : Bool :=
  label ≠ [] && label.length ≤ 63 && label.head? ≠ some '-' && label.getLast? ≠ some '-'
    && label.all fun c => accepted c || c = '-'

end RealityConsole.Framework
