import Mathlib.Algebra.Group.Nat.Defs
import Mathlib.Data.List.Basic
import Mathlib.Data.List.Induction

/-!
# Labelled transcripts

A transcript is a sequence of labelled fields. Each label and each value comes with
its length in front of it, so a transcript determines its fields, however many of
them there are and whatever they contain.
-/

namespace RealityConsole.Framework

abbrev Bytes := List UInt8

/-! ### Numbers and texts -/

/-- The low bytes of a number, the highest first: `to_be_bytes`. -/
def bigEndian : Nat → Nat → Bytes
  | 0, _ => []
  | width + 1, n => bigEndian width (n / 256) ++ [UInt8.ofNat n]

@[simp] theorem length_bigEndian (width n : Nat) : (bigEndian width n).length = width := by
  induction width generalizing n with
  | zero => rfl
  | succ width ih => simp [bigEndian, ih]

/-- The bytes determine a number that fits. -/
theorem bigEndian_inj {width a b : Nat} (ha : a < 256 ^ width) (hb : b < 256 ^ width)
    (h : bigEndian width a = bigEndian width b) : a = b := by
  induction width generalizing a b with
  | zero =>
    rw [Nat.pow_zero] at ha hb
    omega
  | succ width ih =>
    rw [Nat.pow_succ] at ha hb
    obtain ⟨hhigh, hlow⟩ := List.append_inj h (by simp)
    have hdiv : a / 256 = b / 256 :=
      ih (Nat.div_lt_of_lt_mul (by omega)) (Nat.div_lt_of_lt_mul (by omega)) hhigh
    have hmod : a % 256 = b % 256 := by
      have hbyte := congrArg UInt8.toNat (List.cons.inj hlow).1
      simpa using hbyte
    omega

/-- The number that some bytes are, the highest first: `from_be_bytes`. -/
def ofBigEndian (bytes : Bytes) : Nat := bytes.foldl (fun n byte => 256 * n + byte.toNat) 0

theorem ofBigEndian_append (bs : Bytes) (byte : UInt8) :
    ofBigEndian (bs ++ [byte]) = 256 * ofBigEndian bs + byte.toNat := by
  unfold ofBigEndian
  rw [List.foldl_append]
  rfl

theorem ofBigEndian_bigEndian {width n : Nat} (h : n < 256 ^ width) :
    ofBigEndian (bigEndian width n) = n := by
  induction width generalizing n with
  | zero =>
    rw [Nat.pow_zero] at h
    show 0 = n
    omega
  | succ width ih =>
    rw [Nat.pow_succ] at h
    have hhigh := ih (n := n / 256) (Nat.div_lt_of_lt_mul (by omega))
    rw [bigEndian, ofBigEndian_append, hhigh, UInt8.toNat_ofNat']
    omega

theorem bigEndian_ofBigEndian (bytes : Bytes) :
    bigEndian bytes.length (ofBigEndian bytes) = bytes ∧
    ofBigEndian bytes < 256 ^ bytes.length := by
  induction bytes using List.reverseRecOn with
  | nil => decide
  | append_singleton bytes byte ih =>
    have hbyte := byte.toNat_lt
    have hhigh : (256 * ofBigEndian bytes + byte.toNat) / 256 = ofBigEndian bytes := by omega
    have hlow : UInt8.ofNat (256 * ofBigEndian bytes + byte.toNat) = byte := by
      apply UInt8.toNat_inj.1
      rw [UInt8.toNat_ofNat']
      omega
    rw [ofBigEndian_append, List.length_append, List.length_singleton, Nat.pow_succ, bigEndian,
      hhigh, hlow, ih.1]
    exact ⟨rfl, by omega⟩

theorem take_word (width : Nat) {bs : Bytes} (h : width ≤ bs.length) :
    bigEndian width (ofBigEndian (bs.take width)) = bs.take width ∧
      ofBigEndian (bs.take width) < 256 ^ width := by
  have hword := bigEndian_ofBigEndian (bs.take width)
  rwa [List.length_take_of_le h] at hword

def textBytes (text : String) : Bytes := text.toByteArray.data.toList

theorem textBytes_inj {a b : String} (h : textBytes a = textBytes b) : a = b := by
  apply String.toByteArray_inj.1
  exact ByteArray.ext (Array.toList_inj.1 h)

/-- `str::from_utf8` -/
def fromUtf8 (bytes : Bytes) : Option String := String.fromUTF8? ⟨bytes.toArray⟩

theorem fromUtf8_some {bytes : Bytes} {text : String} :
    fromUtf8 bytes = some text ↔ textBytes text = bytes := by
  unfold fromUtf8 String.fromUTF8? textBytes
  constructor
  · intro h
    split at h
    · cases h
      rfl
    · cases h
  · rintro rfl
    rw [Array.toArray_toList]
    exact dif_pos text.isValidUTF8

theorem length_textBytes_le (text : String) : (textBytes text).length ≤ 4 * text.toList.length := by
  have hchars : ∀ chars : List Char, (chars.flatMap String.utf8EncodeChar).length ≤
      4 * chars.length := by
    intro chars
    induction chars with
    | nil => exact Nat.le_refl _
    | cons c chars ih =>
      have hc := Char.utf8Size_le_four c
      rw [List.flatMap_cons, List.length_append, String.length_utf8EncodeChar, List.length_cons]
      omega
  have hbs : textBytes text = text.toList.flatMap String.utf8EncodeChar := by
    rw [textBytes, ← String.utf8Encode_toList, List.utf8Encode, List.data_toByteArray]
  rw [hbs]
  exact hchars _

/-! ### Fields -/

structure Field where
  label : Bytes
  value : Bytes

namespace Field

/-- The length of a label takes two bytes and that of a value four. -/
def Fits (f : Field) : Prop := f.label.length < 256 ^ 2 ∧ f.value.length < 256 ^ 4

instance (f : Field) : Decidable f.Fits := inferInstanceAs (Decidable (_ ∧ _))

def bytes (f : Field) : Bytes :=
  bigEndian 2 f.label.length ++ f.label ++ bigEndian 4 f.value.length ++ f.value

theorem length_bytes (f : Field) : f.bytes.length = 6 + f.label.length + f.value.length := by
  simp only [bytes, List.length_append, length_bigEndian]
  omega

theorem bytes_append_inj {f g : Field} {rest rest' : Bytes} (hf : f.Fits) (hg : g.Fits)
    (h : f.bytes ++ rest = g.bytes ++ rest') : f = g ∧ rest = rest' := by
  obtain ⟨label, value⟩ := f
  simp only [bytes, List.append_assoc] at h
  obtain ⟨hlabelLength, hlabels⟩ := List.append_inj h (by simp)
  obtain ⟨hlabel, hvalues⟩ := List.append_inj hlabels (bigEndian_inj hf.1 hg.1 hlabelLength)
  obtain ⟨hvalueLength, hvl⟩ := List.append_inj hvalues (by simp)
  obtain ⟨hvl, hrest⟩ := List.append_inj hvl (bigEndian_inj hf.2 hg.2 hvalueLength)
  exact ⟨by rw [hlabel, hvl], hrest⟩

end Field

/-! ### Transcripts -/

/-- The fields one after the other; a field that does not fit has no transcript. -/
def encodeFields : List Field → Option Bytes
  | [] => some []
  | f :: rest => if f.Fits then (encodeFields rest).map (f.bytes ++ ·) else none

variable {transcript : Bytes}

theorem encodeFields_cons {f : Field} {rest : List Field} :
    encodeFields (f :: rest) = some transcript ↔
      f.Fits ∧ ∃ tail, encodeFields rest = some tail ∧ transcript = f.bytes ++ tail := by
  rw [encodeFields]
  by_cases hfits : f.Fits
  · rw [if_pos hfits, Option.map_eq_some_iff]
    simp only [hfits, true_and, eq_comm (b := transcript)]
  · simp [hfits]

theorem encodeFields_inj {fs gs : List Field} (hf : encodeFields fs = some transcript)
    (hg : encodeFields gs = some transcript) : fs = gs := by
  induction fs generalizing gs transcript with
  | nil =>
    cases gs with
    | nil => rfl
    | cons g gs =>
      obtain ⟨-, tail, -, rfl⟩ := encodeFields_cons.1 hg
      have hlen := congrArg List.length (Option.some.inj hf)
      rw [List.length_append, Field.length_bytes, List.length_nil] at hlen
      omega
  | cons f fs ih =>
    obtain ⟨hfits, tail, htail, rfl⟩ := encodeFields_cons.1 hf
    cases gs with
    | nil =>
      have hlen := congrArg List.length (Option.some.inj hg)
      rw [List.length_append, Field.length_bytes, List.length_nil] at hlen
      omega
    | cons g gs =>
      obtain ⟨hfits', tail', htail', heq⟩ := encodeFields_cons.1 hg
      obtain ⟨rfl, rfl⟩ := Field.bytes_append_inj hfits hfits' heq
      rw [ih htail htail']

theorem exists_encodeFields {fields : List Field} (h : ∀ f ∈ fields, f.Fits) :
    ∃ transcript, encodeFields fields = some transcript := by
  induction fields with
  | nil => exact ⟨[], rfl⟩
  | cons f rest ih =>
    obtain ⟨tail, htail⟩ := ih fun g hg => h g (.tail _ hg)
    exact ⟨_, encodeFields_cons.2 ⟨h f List.mem_cons_self, tail, htail, rfl⟩⟩

/-- A transcript is longer than its first label and value together. -/
theorem length_encodeFields {f : Field} {rest : List Field}
    (h : encodeFields (f :: rest) = some transcript) :
    6 + f.label.length + f.value.length ≤ transcript.length := by
  obtain ⟨-, tail, -, rfl⟩ := encodeFields_cons.1 h
  rw [List.length_append, Field.length_bytes]
  omega

/-- A repeated group of fields of a fixed count is determined by its place. -/
theorem flatMap_append_inj {α β : Type*} {fields : α → List β} {width : Nat}
    (hlen : ∀ a, (fields a).length = width) (hinj : Function.Injective fields) {as bs : List α}
    {rest rest' : List β} (hcount : as.length = bs.length)
    (h : as.flatMap fields ++ rest = bs.flatMap fields ++ rest') : as = bs ∧ rest = rest' := by
  induction as generalizing bs with
  | nil =>
    obtain rfl := List.length_eq_zero_iff.1 hcount.symm
    exact ⟨rfl, h⟩
  | cons a as ih =>
    cases bs with
    | nil => cases hcount
    | cons b bs =>
      simp only [List.flatMap_cons, List.append_assoc] at h
      obtain ⟨hhead, htail⟩ := List.append_inj h ((hlen a).trans (hlen b).symm)
      obtain ⟨rfl, hrest⟩ := ih (Nat.succ.inj hcount) htail
      exact ⟨by rw [hinj hhead], hrest⟩

/-- Records of which none is the beginning of another are told apart in a row of them. -/
theorem flatMap_inj_of_append {α β : Type*} {code : α → List β} {p : α → Prop}
    (hcode : ∀ a b rest rest', p a → p b → code a ++ rest = code b ++ rest' → a = b ∧ rest = rest')
    (hne : ∀ a, code a ≠ []) {as bs : List α} (ha : ∀ a ∈ as, p a) (hb : ∀ b ∈ bs, p b)
    (h : as.flatMap code = bs.flatMap code) : as = bs := by
  induction as generalizing bs with
  | nil =>
    cases bs with
    | nil => rfl
    | cons b bs => exact absurd (List.append_eq_nil_iff.1 h.symm).1 (hne b)
  | cons a as ih =>
    cases bs with
    | nil => exact absurd (List.append_eq_nil_iff.1 h).1 (hne a)
    | cons b bs =>
      obtain ⟨rfl, hrest⟩ := hcode a b _ _ (ha a (.head _)) (hb b (.head _)) h
      rw [ih (fun a h => ha a (.tail _ h)) (fun b h => hb b (.tail _ h)) hrest]

end RealityConsole.Framework
