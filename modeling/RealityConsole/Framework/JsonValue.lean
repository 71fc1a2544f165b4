import Mathlib.Data.List.TakeWhile
import RealityConsole.Framework.Json

/-!
# JSON values

JSON values as trees and their compact texts, as `serde_json::to_vec` documents
them: no blanks, and the fields in their order. A text determines the value it
writes: a string literal ends at the first quote that is not escaped, a number
where its digits end, and an array or an object at its own bracket.
-/

namespace RealityConsole.Framework.Json

/-! ### String literals -/

/-- Reads one character of a string literal. -/
def unescape : List Char → Option (Char × List Char)
  | '\\' :: '"' :: rest => some ('"', rest)
  | '\\' :: '\\' :: rest => some ('\\', rest)
  | '\\' :: 'b' :: rest => some (Char.ofNat 8, rest)
  | '\\' :: 't' :: rest => some (Char.ofNat 9, rest)
  | '\\' :: 'n' :: rest => some (Char.ofNat 10, rest)
  | '\\' :: 'f' :: rest => some (Char.ofNat 12, rest)
  | '\\' :: 'r' :: rest => some (Char.ofNat 13, rest)
  | '\\' :: 'u' :: a :: b :: c :: d :: rest => some (Char.ofNat (hexNumber [a, b, c, d]), rest)
  | c :: rest => some (c, rest)
  | [] => none

theorem unescape_escape (c : Char) (rest : List Char) :
    unescape (escape c ++ rest) = some (c, rest) := by
  have hofNat : ∀ n, c.toNat = n → Char.ofNat n = c := by
    rintro _ rfl
    exact Char.ofNat_toNat c
  unfold escape
  split_ifs with hqte hbackslash h8 h9 h10 h12 h13 hcontrol
  · subst hqte
    rfl
  · subst hbackslash
    rfl
  · show some (Char.ofNat 8, rest) = _
    rw [hofNat 8 h8]
  · show some (Char.ofNat 9, rest) = _
    rw [hofNat 9 h9]
  · show some (Char.ofNat 10, rest) = _
    rw [hofNat 10 h10]
  · show some (Char.ofNat 12, rest) = _
    rw [hofNat 12 h12]
  · show some (Char.ofNat 13, rest) = _
    rw [hofNat 13 h13]
  · have hnum : hexNumber (hexDigits 4 c.toNat) = c.toNat := hexNumber_hexDigits (by omega)
    have hlen : (hexDigits 4 c.toNat).length = 4 := length_hexDigits 4 c.toNat
    obtain ⟨x, y, z, w, hdigs⟩ : ∃ x y z w, hexDigits 4 c.toNat = [x, y, z, w] := by
      match hexDigits 4 c.toNat, hlen with
      | [x, y, z, w], _ => exact ⟨x, y, z, w, rfl⟩
    rw [hdigs] at hnum
    simp [unescape, hdigs, hnum]
  · simp [unescape, hbackslash]

/-- An escaped character does not begin like the end of the literal. -/
theorem escape_append_ne_quote (c : Char) (rest rest' : List Char) :
    escape c ++ rest ≠ '"' :: rest' := by
  intro h
  have hread := unescape_escape c rest
  rw [h] at hread
  have hc : c = '"' := by simpa [unescape, eq_comm] using congrArg (Option.map Prod.fst) hread
  subst hc
  simp [escape] at h

/-- A string literal determines its text and where it ends. -/
theorem quote_append_inj {a b rest rest' : List Char}
    (h : quote a ++ rest = quote b ++ rest') : a = b ∧ rest = rest' := by
  replace h : a.flatMap escape ++ '"' :: rest = b.flatMap escape ++ '"' :: rest' := by
    simpa [quote] using h
  induction a generalizing b with
  | nil =>
    cases b with
    | nil => exact ⟨rfl, (List.cons.inj h).2⟩
    | cons d b =>
      rw [List.flatMap_cons, List.append_assoc] at h
      exact absurd h.symm (escape_append_ne_quote d _ _)
  | cons c a ih =>
    rw [List.flatMap_cons, List.append_assoc] at h
    cases b with
    | nil => exact absurd h (escape_append_ne_quote c _ _)
    | cons d b =>
      rw [List.flatMap_cons, List.append_assoc] at h
      have hread := congrArg unescape h
      rw [unescape_escape, unescape_escape] at hread
      obtain ⟨rfl, htail⟩ := Prod.mk.inj (Option.some.inj hread)
      obtain ⟨rfl, hrest⟩ := ih htail
      exact ⟨rfl, hrest⟩

/-! ### Numbers -/

/-- The text does not begin with a digit. -/
def Ends (rest : List Char) : Prop := ∀ c, rest.head? = some c → c.isDigit = false

theorem takeWhile_number {n : Nat} {rest : List Char} (h : Ends rest) :
    (number n ++ rest).takeWhile Char.isDigit = number n := by
  have hdigs : ∀ c ∈ number n, c.isDigit = true := fun c hc =>
    Nat.isDigit_of_mem_toDigits (by decide) (by decide) hc
  rw [List.takeWhile_append_of_pos hdigs]
  cases rest with
  | nil => simp
  | cons c rest => simp [h c rfl]

/-- A number is determined by its digits, which end where the next text begins. -/
theorem number_append_inj {m n : Nat} {rest rest' : List Char} (hends : Ends rest)
    (hends' : Ends rest') (h : number m ++ rest = number n ++ rest') : m = n ∧ rest = rest' := by
  have hdigs : number m = number n := by rw [← takeWhile_number hends, h, takeWhile_number hends']
  have hvl := congrArg (Nat.ofDigitChars 10 · 0) hdigs
  refine ⟨by simpa [number] using hvl, ?_⟩
  rw [hdigs] at h
  exact List.append_cancel_left h

/-! ### Values -/

/-- A JSON value; its numbers are not negative. -/
inductive Value where
  | null
  | boolean (b : Bool)
  | number (n : Nat)
  | text (s : String)
  | array (items : List Value)
  | object (fields : List (String × Value))

mutual

/-- `serde_json::to_vec`: the compact text of a value. -/
def Value.render : Value → List Char
  | .null => "null".toList
  | .boolean b => Json.boolean b
  | .number n => Json.number n
  | .text s => quote s.toList
  | .array items => '[' :: renderItems items
  | .object fields => '\x7b' :: renderFields fields

def renderItems : List Value → List Char
  | [] => [']']
  | v :: rest => v.render ++ renderMoreItems rest

def renderMoreItems : List Value → List Char
  | [] => [']']
  | v :: rest => ',' :: (v.render ++ renderMoreItems rest)

def renderFields : List (String × Value) → List Char
  | [] => ['\x7d']
  | (name, v) :: rest => quote name.toList ++ ':' :: (v.render ++ renderMoreFields rest)

def renderMoreFields : List (String × Value) → List Char
  | [] => ['\x7d']
  | (name, v) :: rest => ',' :: (quote name.toList ++ ':' :: (v.render ++ renderMoreFields rest))

end

/-! ### Reading values -/

def Value.kind : Value → Nat
  | .null => 0
  | .boolean _ => 1
  | .number _ => 2
  | .text _ => 3
  | .array _ => 4
  | .object _ => 5

/-- The kind of value that a character begins. -/
def kindOf (c : Char) : Option Nat :=
  if c = 'n' then some 0
  else if c = 't' ∨ c = 'f' then some 1
  else if c.isDigit then some 2
  else if c = '"' then some 3
  else if c = '[' then some 4
  else if c = '\x7b' then some 5
  else none

theorem kindOf_of_isDigit {c : Char} (h : c.isDigit) : kindOf c = some 2 := by
  have hne : ∀ d : Char, d.isDigit = false → c ≠ d := by
    rintro d hd rfl
    rw [h] at hd
    cases hd
  simp [kindOf, h, hne 'n' (by decide), hne 't' (by decide), hne 'f' (by decide)]

/-- The first character of a text tells the kind of its value. -/
theorem kind_of_render (v : Value) (rest : List Char) :
    (v.render ++ rest).head?.bind kindOf = some v.kind := by
  cases v with
  | null => rfl
  | boolean b => cases b <;> rfl
  | number n =>
    obtain ⟨c, digits, hdigs⟩ := List.exists_cons_of_ne_nil (Nat.toDigits_ne_nil (b := 10) (n := n))
    have hc : c.isDigit = true := Nat.isDigit_of_mem_toDigits (n := n) (b := 10) (by decide)
      (by decide) (hdigs ▸ List.mem_cons_self)
    have hrender : (Value.number n).render = c :: digits := by
      rw [Value.render, Json.number, hdigs]
    rw [hrender]
    exact kindOf_of_isDigit hc
  | text s => rfl
  | array items =>
    rw [Value.render]
    rfl
  | object fields =>
    rw [Value.render]
    rfl

/-- No value begins like the end of an array or of an object. -/
theorem render_append_ne {v : Value} {c : Char} (hc : kindOf c = none) (rest rest' : List Char) :
    v.render ++ rest ≠ c :: rest' := by
  intro h
  have hkind := kind_of_render v rest
  rw [h] at hkind
  cases hc.symm.trans hkind

theorem ends_cons {c : Char} {rest : List Char} (h : c.isDigit = false) : Ends (c :: rest) := by
  intro d hd
  cases hd
  exact h

theorem ends_renderMoreItems (items : List Value) (rest : List Char) :
    Ends (renderMoreItems items ++ rest) := by
  cases items with
  | nil => exact ends_cons (by decide)
  | cons v items =>
    rw [renderMoreItems]
    exact ends_cons (by decide)

theorem ends_renderMoreFields (fields : List (String × Value)) (rest : List Char) :
    Ends (renderMoreFields fields ++ rest) := by
  cases fields with
  | nil => exact ends_cons (by decide)
  | cons field fields =>
    rw [renderMoreFields]
    exact ends_cons (by decide)

theorem renderMoreItems_congr {items items' : List Value} {rest rest' : List Char}
    (h : renderItems items ++ rest = renderItems items' ++ rest') :
    renderMoreItems items ++ rest = renderMoreItems items' ++ rest' := by
  cases items <;> cases items' <;> simp only [renderItems, List.append_assoc] at h
  · exact h
  · exact absurd h.symm (render_append_ne (by decide) _ _)
  · exact absurd h (render_append_ne (by decide) _ _)
  · simpa only [renderMoreItems, List.cons_append, List.append_assoc] using congrArg (',' :: ·) h

theorem renderMoreFields_congr {fields fields' : List (String × Value)} {rest rest' : List Char}
    (h : renderFields fields ++ rest = renderFields fields' ++ rest') :
    renderMoreFields fields ++ rest = renderMoreFields fields' ++ rest' := by
  cases fields <;> cases fields' <;> simp only [renderFields, List.append_assoc] at h
  · exact h
  · cases (List.cons.inj h).1
  · cases (List.cons.inj h).1
  · simpa only [renderMoreFields, List.cons_append, List.append_assoc] using congrArg (',' :: ·) h

mutual

/-- The text of a value determines the value and where its text ends. -/
theorem render_append_inj : ∀ (v v' : Value) (rest rest' : List Char), Ends rest → Ends rest' →
    v.render ++ rest = v'.render ++ rest' → v = v' ∧ rest = rest' := by
  intro v v' rest rest' hends hends' h
  have hkind : v.kind = v'.kind := by
    have hboth := (kind_of_render v rest).symm.trans
      ((congrArg (·.head?.bind kindOf) h).trans (kind_of_render v' rest'))
    exact Option.some.inj hboth
  cases v with
  | null =>
    cases v' with
    | null => exact ⟨rfl, List.append_cancel_left h⟩
    | _ => cases hkind
  | boolean b =>
    cases v' with
    | boolean b' =>
      cases b <;> cases b'
      · exact ⟨rfl, List.append_cancel_left h⟩
      · cases (List.cons.inj h).1
      · cases (List.cons.inj h).1
      · exact ⟨rfl, List.append_cancel_left h⟩
    | _ => cases hkind
  | number n =>
    cases v' with
    | number n' =>
      obtain ⟨rfl, hrest⟩ := number_append_inj hends hends' h
      exact ⟨rfl, hrest⟩
    | _ => cases hkind
  | text s =>
    cases v' with
    | text s' =>
      obtain ⟨htext, hrest⟩ := quote_append_inj h
      exact ⟨by rw [String.toList_inj.1 htext], hrest⟩
    | _ => cases hkind
  | array items =>
    cases v' with
    | array items' =>
      rw [Value.render, Value.render] at h
      obtain ⟨rfl, hrest⟩ := renderMoreItems_append_inj items items' rest rest'
        (renderMoreItems_congr (List.cons.inj h).2)
      exact ⟨rfl, hrest⟩
    | _ => cases hkind
  | object fields =>
    cases v' with
    | object fields' =>
      rw [Value.render, Value.render] at h
      obtain ⟨rfl, hrest⟩ := renderMoreFields_append_inj fields fields' rest rest'
        (renderMoreFields_congr (List.cons.inj h).2)
      exact ⟨rfl, hrest⟩
    | _ => cases hkind

theorem renderMoreItems_append_inj : ∀ (items items' : List Value) (rest rest' : List Char),
    renderMoreItems items ++ rest = renderMoreItems items' ++ rest' →
      items = items' ∧ rest = rest' := by
  intro items items' rest rest' h
  cases items with
  | nil =>
    cases items' with
    | nil => exact ⟨rfl, (List.cons.inj h).2⟩
    | cons v' items' =>
      rw [renderMoreItems, renderMoreItems] at h
      cases (List.cons.inj h).1
  | cons v items =>
    cases items' with
    | nil =>
      rw [renderMoreItems, renderMoreItems] at h
      cases (List.cons.inj h).1
    | cons v' items' =>
      simp only [renderMoreItems, List.cons_append, List.append_assoc, List.cons.injEq,
        true_and] at h
      obtain ⟨rfl, htail⟩ := render_append_inj v v' _ _ (ends_renderMoreItems _ _)
        (ends_renderMoreItems _ _) h
      obtain ⟨rfl, hrest⟩ := renderMoreItems_append_inj items items' rest rest' htail
      exact ⟨rfl, hrest⟩

theorem renderMoreFields_append_inj : ∀ (fields fields' : List (String × Value))
    (rest rest' : List Char), renderMoreFields fields ++ rest = renderMoreFields fields' ++ rest' →
      fields = fields' ∧ rest = rest' := by
  intro fields fields' rest rest' h
  match fields, fields' with
  | [], [] => exact ⟨rfl, (List.cons.inj h).2⟩
  | [], (name', v') :: fields' =>
    rw [renderMoreFields, renderMoreFields] at h
    cases (List.cons.inj h).1
  | (name, v) :: fields, [] =>
    rw [renderMoreFields, renderMoreFields] at h
    cases (List.cons.inj h).1
  | (name, v) :: fields, (name', v') :: fields' =>
    simp only [renderMoreFields, List.cons_append, List.append_assoc, List.cons.injEq,
      true_and] at h
    obtain ⟨hname, hvl⟩ := quote_append_inj h
    simp only [List.cons.injEq, true_and] at hvl
    obtain ⟨rfl, htail⟩ := render_append_inj v v' _ _ (ends_renderMoreFields _ _)
      (ends_renderMoreFields _ _) hvl
    obtain ⟨rfl, hrest⟩ := renderMoreFields_append_inj fields fields' rest rest' htail
    exact ⟨by rw [String.toList_inj.1 hname], hrest⟩

end

theorem render_injective : Function.Injective Value.render := by
  intro v v' h
  have hends : Ends [] := by
    intro c hc
    cases hc
  have happend : v.render ++ [] = v'.render ++ [] := by rw [h]
  exact (render_append_inj v v' [] [] hends hends happend).1

end RealityConsole.Framework.Json
