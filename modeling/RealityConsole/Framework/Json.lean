import Mathlib.Algebra.Order.BigOperators.Group.List
import Mathlib.Algebra.Order.Ring.Nat
import Mathlib.Algebra.Group.Action.Defs
import RealityConsole.Framework.Uuid

/-!
# JSON texts and their sizes

Writers for JSON values, as `serde_json` documents its formatters: the compact one, and the pretty
one, which puts every item on a line of its own with two spaces for each level. Strings are escaped
as RFC 8259 requires and no further. Each has one lemma that gives the size of what it writes in
UTF-8 from the sizes of its parts.
-/

namespace RealityConsole.Framework.Json

/-! ### Sizes -/

def bytes (text : List Char) : Nat := (text.map Char.utf8Size).sum

@[simp] theorem bytes_nil : bytes [] = 0 := rfl

@[simp] theorem bytes_cons (c : Char) (text : List Char) :
    bytes (c :: text) = c.utf8Size + bytes text := by simp [bytes]

@[simp] theorem bytes_append (a b : List Char) : bytes (a ++ b) = bytes a + bytes b := by
  simp [bytes]

theorem bytes_le_length (text : List Char) : bytes text ≤ 4 * text.length := by
  rw [Nat.mul_comm]
  simpa [bytes] using List.sum_le_card_nsmul (text.map Char.utf8Size) 4
    (by simpa using fun c _ => Char.utf8Size_le_four c)

theorem length_le_bytes (text : List Char) : text.length ≤ bytes text := by
  have hpos : ∀ size ∈ text.map Char.utf8Size, 1 ≤ size := by
    intro size hsize
    obtain ⟨c, -, rfl⟩ := List.mem_map.1 hsize
    exact Char.utf8Size_pos c
  simpa [bytes] using List.card_nsmul_le_sum _ 1 hpos

theorem bytes_eq_length {text : List Char} (h : ∀ c ∈ text, c.toNat < 128) :
    bytes text = text.length := by
  induction text with
  | nil => rfl
  | cons c text ih =>
    have hc : c.utf8Size = 1 := by
      have hlt := h c List.mem_cons_self
      have hval : c.val ≤ 0x7f :=
        UInt32.le_iff_toNat_le.2 (by simpa using Nat.le_of_lt_succ hlt)
      unfold Char.utf8Size
      simp [hval]
    rw [bytes_cons, ih fun d hd => h d (List.mem_cons_of_mem c hd), hc, List.length_cons,
      Nat.add_comm]

def join (separator : List Char) : List (List Char) → List Char
  | [] => []
  | [text] => text
  | text :: texts => text ++ separator ++ join separator texts

theorem bytes_join (separator : List Char) (texts : List (List Char)) : bytes (join separator texts)
      = (texts.map bytes).sum + (texts.length - 1) * bytes separator := by
  induction texts with
  | nil => simp [join]
  | cons text texts ih =>
    cases texts with
    | nil => simp [join]
    | cons next rest =>
      simp only [join, bytes_append, ih, List.map_cons, List.sum_cons, List.length_cons,
        Nat.add_sub_cancel]
      rw [Nat.succ_mul]
      omega

/-! ### Scalars -/

/-- One character inside a string literal. -/
def escape (c : Char) : List Char :=
  if c = '"' then ['\\', '"']
  else if c = '\\' then ['\\', '\\']
  else if c.toNat = 8 then ['\\', 'b']
  else if c.toNat = 9 then ['\\', 't']
  else if c.toNat = 10 then ['\\', 'n']
  else if c.toNat = 12 then ['\\', 'f']
  else if c.toNat = 13 then ['\\', 'r']
  else if c.toNat < 32 then '\\' :: 'u' :: hexDigits 4 c.toNat
  else [c]

def quote (text : List Char) : List Char := '"' :: (text.flatMap escape ++ ['"'])

def number (n : Nat) : List Char := Nat.toDigits 10 n

def boolean (b : Bool) : List Char := if b then "true".toList else "false".toList

/-- Characters that a string literal holds as they are. -/
def isPlain (c : Char) : Bool := 32 ≤ c.toNat && c.toNat < 127 && c ≠ '"' && c ≠ '\\'

theorem escape_of_isPlain {c : Char} (h : isPlain c) : escape c = [c] := by
  simp only [isPlain, Bool.and_eq_true, decide_eq_true_eq, ne_eq, decide_not,
    Bool.not_eq_eq_eq_not, Bool.not_true, decide_eq_false_iff_not] at h
  obtain ⟨⟨⟨hlow, -⟩, hqte⟩, hbackslash⟩ := h
  unfold escape
  rw [if_neg hqte, if_neg hbackslash]
  repeat rw [if_neg (by omega)]

theorem bytes_quote {text : List Char} (h : ∀ c ∈ text, isPlain c) :
    bytes (quote text) = text.length + 2 := by
  have hflat : text.flatMap escape = text := by
    induction text with
    | nil => rfl
    | cons c text ih =>
      rw [List.flatMap_cons, escape_of_isPlain (h c List.mem_cons_self),
        ih fun d hd => h d (List.mem_cons_of_mem c hd)]
      rfl
  have hascii : ∀ c ∈ text, c.toNat < 128 := by
    intro c hc
    have hplain := h c hc
    simp only [isPlain, Bool.and_eq_true, decide_eq_true_eq] at hplain
    omega
  rw [quote, hflat, bytes_cons, bytes_append, bytes_eq_length hascii]
  simp [bytes, Char.utf8Size]
  omega

/-- A literal takes at most six bytes for each character. -/
theorem bytes_quote_le (text : List Char) : bytes (quote text) ≤ 6 * text.length + 2 := by
  have hescape : ∀ c : Char, bytes (escape c) ≤ 6 := by
    intro c
    have hdigs : bytes (hexDigits 4 c.toNat) = 4 := by
      rw [bytes_eq_length, length_hexDigits]
      intro d hd
      exact toNat_lt_of_isHexDigit (isHexDigit_of_mem_hexDigits hd)
    have hsize := Char.utf8Size_le_four c
    unfold escape
    repeat' split
    all_goals simp only [bytes_cons, bytes_nil, hdigs]
    all_goals first | omega | decide
  have hflat : bytes (text.flatMap escape) ≤ 6 * text.length := by
    induction text with
    | nil => exact Nat.zero_le _
    | cons c text ih =>
      have hc := hescape c
      rw [List.flatMap_cons, bytes_append, List.length_cons]
      omega
  have hmark : Char.utf8Size '"' = 1 := by decide
  rw [quote, bytes_cons, bytes_append, bytes_cons, bytes_nil, hmark]
  omega

theorem isPlain_of_isHexDigit {c : Char} (h : isHexDigit c) : isPlain c := by
  have hqte : c ≠ '"' := by
    rintro rfl
    exact absurd h (by decide)
  have hbackslash : c ≠ '\\' := by
    rintro rfl
    exact absurd h (by decide)
  simp only [isHexDigit, Bool.or_eq_true, Bool.and_eq_true, decide_eq_true_eq] at h
  simp only [isPlain, hqte, hbackslash, Bool.and_eq_true, decide_eq_true_eq, ne_eq,
    not_false_eq_true, and_true]
  omega

theorem isPlain_of_mem_uuid {id : Uuid} {c : Char} (h : c ∈ id.text.toList) : isPlain c := by
  rcases Uuid.mem_text h with hdig | rfl
  · exact isPlain_of_isHexDigit hdig
  · decide

theorem bytes_quote_uuid (id : Uuid) : bytes (quote id.text.toList) = 38 := by
  rw [bytes_quote fun c hc => isPlain_of_mem_uuid hc, String.length_toList, Uuid.length_text]

/-! ### Compact values -/

def array (items : List (List Char)) : List Char := '[' :: (join [','] items ++ [']'])

def object (fields : List (String × List Char)) : List Char :=
  '\x7b' :: (join [','] (fields.map fun f => quote f.1.toList ++ ':' :: f.2) ++ ['\x7d'])

theorem bytes_array (items : List (List Char)) :
    bytes (array items) = 2 + (items.map bytes).sum + (items.length - 1) := by
  rw [array, bytes_cons, bytes_append, bytes_join]
  simp [bytes, Char.utf8Size]
  omega

theorem bytes_object (fields : List (String × List Char)) : bytes (object fields)
      = 2 + (fields.map fun f => bytes (quote f.1.toList) + 1 + bytes f.2).sum
        + (fields.length - 1) := by
  have hcolon : ∀ f : String × List Char,
      bytes (quote f.1.toList ++ ':' :: f.2) = bytes (quote f.1.toList) + 1 + bytes f.2 := by
    intro f
    rw [bytes_append, bytes_cons]
    simp [Char.utf8Size]
    omega
  rw [object, bytes_cons, bytes_append, bytes_join, List.map_map, List.length_map]
  simp only [Function.comp_def, hcolon]
  simp [bytes, Char.utf8Size]
  omega

/-! ### Values on several lines -/

/-- A value that is written at a given depth. -/
abbrev Writer := Nat → List Char

/-- Two spaces for each level. -/
def indent (depth : Nat) : List Char := List.replicate (2 * depth) ' '

def line (depth : Nat) (item : Writer) : List Char := indent (depth + 1) ++ item (depth + 1)

/-- The items of a list, one level deeper, each on a line of its own. -/
def lines (opening closing : Char) (items : List Writer) (depth : Nat) : List Char :=
  if items = [] then [opening, closing]
  else opening :: '\n' :: (join [',', '\n'] (items.map (line depth))
    ++ '\n' :: (indent depth ++ [closing]))

def prettyArray (items : List Writer) : Writer := lines '[' ']' items

def prettyObject (fields : List (String × Writer)) : Writer :=
  lines '\x7b' '\x7d' (fields.map fun f depth => quote f.1.toList ++ ':' :: ' ' :: f.2 depth)

theorem bytes_indent (depth : Nat) : bytes (indent depth) = 2 * depth := by
  simp [bytes, indent, Char.utf8Size]

theorem bytes_lines_le (opening closing : Char) (hopg : opening.utf8Size = 1)
    (hclosing : closing.utf8Size = 1) (items : List Writer) (depth : Nat) :
    bytes (lines opening closing items depth)
      ≤ 4 + 2 * depth + (items.map fun w => bytes (w (depth + 1)) + 2 * depth + 4).sum := by
  have hits : ∀ l : List Writer, ((l.map (line depth)).map bytes).sum + l.length * 2
        = (l.map fun w => bytes (w (depth + 1)) + 2 * depth + 4).sum := by
    intro l
    induction l with
    | nil => rfl
    | cons w l ih =>
      simp only [List.map_cons, List.sum_cons, List.length_cons, line, bytes_append,
        bytes_indent] at ih ⊢
      omega
  have hsum := hits items
  have hnewline : Char.utf8Size '\n' = 1 := by decide
  have hseparator : bytes [',', '\n'] = 2 := by decide
  unfold lines
  by_cases hemp : items = []
  · rw [if_pos hemp]
    simp only [bytes_cons, bytes_nil, hopg, hclosing]
    omega
  rw [if_neg hemp]
  simp only [bytes_cons, bytes_append, bytes_join, bytes_indent, bytes_nil, List.length_map,
    hopg, hclosing, hnewline, hseparator]
  omega

theorem bytes_prettyArray_le {items : List Writer} {depth bound : Nat}
    (h : ∀ w ∈ items, bytes (w (depth + 1)) ≤ bound) : bytes (prettyArray items depth)
      ≤ 4 + 2 * depth + items.length * (bound + 2 * depth + 4) := by
  have hlines := bytes_lines_le '[' ']' rfl rfl items depth
  have hsum : (items.map fun w => bytes (w (depth + 1)) + 2 * depth + 4).sum
      ≤ items.length * (bound + 2 * depth + 4) := by
    have hle := List.sum_le_card_nsmul
      (items.map fun w => bytes (w (depth + 1)) + 2 * depth + 4) (bound + 2 * depth + 4) ?_
    · rwa [List.length_map, smul_eq_mul] at hle
    · intro size hsize
      obtain ⟨w, hw, rfl⟩ := List.mem_map.1 hsize
      have hw := h w hw
      omega
  unfold prettyArray
  omega

theorem bytes_prettyObject_le (fields : List (String × Writer)) (depth : Nat) :
    bytes (prettyObject fields depth) ≤ 4 + 2 * depth + (fields.map fun f =>
          bytes (quote f.1.toList) + bytes (f.2 (depth + 1)) + 2 * depth + 6).sum := by
  have hlines := bytes_lines_le '\x7b' '\x7d' rfl rfl
    (fields.map fun f depth => quote f.1.toList ++ ':' :: ' ' :: f.2 depth) depth
  have hfield : ∀ f : String × Writer,
      bytes (quote f.1.toList ++ ':' :: ' ' :: f.2 (depth + 1)) + 2 * depth + 4
        = bytes (quote f.1.toList) + bytes (f.2 (depth + 1)) + 2 * depth + 6 := by
    intro f
    have hcolon : Char.utf8Size ':' = 1 := by decide
    have hspace : Char.utf8Size ' ' = 1 := by decide
    rw [bytes_append, bytes_cons, bytes_cons, hcolon, hspace]
    omega
  rw [List.map_map] at hlines
  simpa only [prettyObject, Function.comp_def, hfield] using hlines

end RealityConsole.Framework.Json
